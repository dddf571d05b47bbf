import Mathlib.Data.Nat.Bitwise
import Chip8.Proofs.Screen.Bytes
import Chip8.Screen.Cells

/-!
# Reading a screen back from its text

A text shows the screen line by line and every pixel as one of two cells.  If both cells are
equally long, the cell of a pixel is found by counting letters (`cellAt`), whatever the cells
are made of, line ends among them.  If moreover the cells differ, they tell which pixels are
lit, and packing these gives the screen back (`pack_pixel`).

The letters of the text are those of its lines with single line ends between them
(`letters_text`).  Dropping whole lines and then whole cells leads to the cell of a pixel
(`drop_intercalate`, `drop_flatMap`).
-/

namespace Chip8

namespace Screen

open Layout
open Text (Letter letters ofLetters ofLetters_append letters_ofLetters)

/-! ### Packing -/

/-- The byte of eight pixels, the leftmost in the highest bit. -/
def packByte (lit : Fin 8 → Bool) : UInt8 := UInt8.ofNat (Nat.ofBits fun i => lit i.rev)

/-- The screen that shows some pixels. -/
def pack (lit : Fin screenHeight → Fin screenWidth → Bool) : Screen :=
  Vector.ofFn fun place => packByte fun i =>
    lit ⟨place.val / bytesPerRow, Nat.div_lt_of_lt_mul place.isLt⟩
      (pixelColumn ⟨place.val % bytesPerRow, Nat.mod_lt _ (by decide)⟩ i)

theorem testBit_packByte (lit : Fin 8 → Bool) (i : Fin 8) :
    (packByte lit).toNat.testBit (7 - i.val) = lit i := by
  have hlt : Nat.ofBits (fun i => lit i.rev) < 2 ^ 8 := Nat.ofBits_lt_two_pow _
  have hi : 7 - i.val < 8 := by omega
  have hrev : Fin.rev ⟨7 - i.val, hi⟩ = i := by
    apply Fin.ext
    simp only [Fin.val_rev]
    omega
  rw [packByte, UInt8.toNat_ofNat_of_lt' hlt, Nat.testBit_ofBits_lt _ _ hi, hrev]

/-- A packed screen shows the pixels that it was packed from. -/
theorem pixel_pack (lit : Fin screenHeight → Fin screenWidth → Bool) (row : Fin screenHeight)
    (column : Fin screenWidth) : (pack lit).pixel row column = lit row column := by
  have hcolumn : column.val < 64 := column.isLt
  set i : Fin 8 := ⟨column.val % 8, Nat.mod_lt _ (by decide)⟩ with hi
  have hplace : (place row (byteColumn column)).val = 8 * row.val + column.val / 8 := by
    simp only [place, byteColumn, bytesPerRow, Nat.mul_comm]
  have hbyte : (pack lit)[place row (byteColumn column)] = packByte fun i =>
      lit row (pixelColumn (byteColumn column) i) := by
    rw [pack, Fin.getElem_fin, Vector.getElem_ofFn]
    congr
    funext i
    congr 2
    · simp only [hplace, bytesPerRow]
      omega
    · apply Fin.ext
      change (place row (byteColumn column)).val % 8 = column.val / 8
      rw [hplace]
      omega
  have hpixel : pixelColumn (byteColumn column) i = column := by
    apply Fin.ext
    simp only [pixelColumn, byteColumn, hi]
    omega
  rw [pixel, hbyte, testBit_packByte _ i, hpixel]

theorem pack_pixel (screen : Screen) : pack screen.pixel = screen :=
  eq_of_pixel_eq (pixel_pack screen.pixel)

/-! ### Counting letters -/

variable {Item Other : Type}

theorem drop_flatMap {f : Item → List Other} {size : Nat} (h : ∀ item, (f item).length = size)
    (items : List Item) (count : Nat) :
    (items.flatMap f).drop (count * size) = (items.drop count).flatMap f := by
  induction count generalizing items with
  | zero => rw [Nat.zero_mul, List.drop_zero, List.drop_zero]
  | succ count ih =>
      cases items with
      | nil => simp
      | cons item rest =>
          rw [List.flatMap_cons, Nat.succ_mul, Nat.add_comm, ← h item, List.drop_length_add_append,
            h item, ih, List.drop_succ_cons]

/-- Lines of equal length are found by counting one letter more for each line end. -/
theorem drop_intercalate {sep : Item} {width : Nat} {lines : List (List Item)}
    (h : ∀ line ∈ lines, line.length = width) {count : Nat} (hcount : count < lines.length) :
    ([sep].intercalate lines).drop (count * (width + 1)) =
      [sep].intercalate (lines.drop count) := by
  induction count generalizing lines with
  | zero => rw [Nat.zero_mul, List.drop_zero, List.drop_zero]
  | succ count ih =>
      match lines, h, hcount with
      | line :: next :: rest, h, hcount =>
          rw [List.forall_mem_cons] at h
          have hplace : (count + 1) * (width + 1) =
              (line ++ [sep]).length + count * (width + 1) := by
            rw [Nat.succ_mul, List.length_append, h.1, List.length_singleton, Nat.add_comm]
          rw [List.intercalate_cons_cons, hplace, List.drop_length_add_append,
            ih h.2 (Nat.lt_of_succ_lt_succ hcount), List.drop_succ_cons]

theorem exists_intercalate_cons (sep : Item) (line : List Item) (rest : List (List Item)) :
    ∃ tail, [sep].intercalate (line :: rest) = line ++ tail := by
  cases rest with
  | nil => exact ⟨[], by rw [List.intercalate_singleton, List.append_nil]⟩
  | cons next rest => exact ⟨_, by rw [List.intercalate_cons_cons, List.append_assoc]⟩

/-- There is a line end after each line but the last one. -/
theorem length_intercalate (sep : Item) {width : Nat} {lines : List (List Item)}
    (h : ∀ line ∈ lines, line.length = width) (hne : lines ≠ []) :
    ([sep].intercalate lines).length + 1 = lines.length * (width + 1) := by
  induction lines with
  | nil => contradiction
  | cons line rest ih =>
      rw [List.forall_mem_cons] at h
      cases rest with
      | nil => rw [List.intercalate_singleton, h.1, List.length_singleton, Nat.one_mul]
      | cons next rest =>
          have hrest := ih h.2 (List.cons_ne_nil next rest)
          rw [List.intercalate_cons_cons, List.length_append, List.length_append, h.1,
            List.length_singleton, List.length_cons, Nat.succ_mul, ← hrest]
          omega

/-! ### The text -/

/-- The cell of a pixel. -/
def cellOf (lit dark : List Letter) (pixel : Bool) : List Letter := if pixel then lit else dark

/-- The letters in the place of the cell of a pixel, where all cells have some size. -/
def cellAt (size : Nat) (text : List Letter) (row : Fin screenHeight) (column : Fin screenWidth) :
    List Letter :=
  ((text.drop (row.val * (screenWidth * size + 1))).drop (column.val * size)).take size

/-- The text that a host gets for a screen and two cells. -/
def requestText (screen lit dark : Argument) : Except Failure String := do
  (← screen.toScreen).textOf lit dark

theorem requestText_eq (screen : Screen) (lit dark : String) :
    requestText (.ofBytes screen.toList) (.text lit) (.text dark) =
      .ok (screen.text lit dark) := by
  simp only [requestText, Argument.toScreen_ofBytes, bind, Except.bind, textOf_text]

theorem join_cells (lit dark : List Letter) (pixels : List Bool) :
    String.join (pixels.map fun pixel => if pixel then ofLetters lit else ofLetters dark) =
      ofLetters (pixels.flatMap (cellOf lit dark)) := by
  induction pixels with
  | nil => rfl
  | cons pixel rest ih =>
      rw [List.map_cons, String.join_cons, ih, List.flatMap_cons, ofLetters_append]
      cases pixel <;> rfl

theorem intercalate_ofLetters (lines : List (List Letter)) :
    "\n".intercalate (lines.map ofLetters) = ofLetters ([.char '\n'].intercalate lines) := by
  induction lines with
  | nil => rfl
  | cons line rest ih =>
      cases rest with
      | nil => rw [List.map_singleton, String.intercalate_singleton, List.intercalate_singleton]
      | cons next rest =>
          have hend : ofLetters [.char '\n'] = "\n" := by decide
          rw [List.map_cons, List.map_cons, String.intercalate_cons_cons, ← List.map_cons, ih,
            List.intercalate_cons_cons, ofLetters_append, ofLetters_append, hend]

/-- The letters of a line. -/
def line (lit dark : List Letter) (screen : Screen) (row : Fin screenHeight) : List Letter :=
  (List.finRange screenWidth).flatMap fun column => cellOf lit dark (screen.pixel row column)

/-- The letters of the text are those of its lines, with single line ends between them. -/
theorem letters_text (lit dark : List Letter) (screen : Screen) :
    letters (screen.text (ofLetters lit) (ofLetters dark)) =
      [.char '\n'].intercalate ((List.finRange screenHeight).map (line lit dark screen)) := by
  have hlines : screen.lines (ofLetters lit) (ofLetters dark) =
      ((List.finRange screenHeight).map (line lit dark screen)).map ofLetters := by
    rw [lines, rows_eq_grid, grid, List.map_map, List.map_map]
    refine List.map_congr_left fun row _ => ?_
    rw [Function.comp_apply, join_cells, List.flatMap_map]
    rfl
  rw [text, hlines, intercalate_ofLetters, letters_ofLetters]

section

variable {lit dark : List Letter} {size : Nat} (hlit : lit.length = size)
  (hdark : dark.length = size) (screen : Screen)

include hlit hdark

theorem length_cellOf (pixel : Bool) : (cellOf lit dark pixel).length = size := by
  cases pixel
  · exact hdark
  · exact hlit

theorem length_line (row : Fin screenHeight) :
    (line lit dark screen row).length = screenWidth * size := by
  rw [line, List.length_flatMap]
  simp only [length_cellOf hlit hdark, List.map_const', List.length_finRange,
    List.sum_replicate_nat]

theorem forall_length_line :
    ∀ letters ∈ (List.finRange screenHeight).map (line lit dark screen),
      letters.length = screenWidth * size := by
  intro letters hmem
  obtain ⟨row, -, rfl⟩ := List.mem_map.mp hmem
  exact length_line hlit hdark screen row

theorem length_letters_text :
    (letters (screen.text (ofLetters lit) (ofLetters dark))).length = 32 * 64 * size + 31 := by
  have hne : (List.finRange screenHeight).map (line lit dark screen) ≠ [] :=
    List.ne_nil_of_length_pos (by simp)
  have hlength := length_intercalate (.char '\n')
    (forall_length_line hlit hdark screen) hne
  rw [← letters_text, List.length_map, List.length_finRange] at hlength
  simp only [screenHeight, screenWidth] at hlength
  omega

/-- The cell of a pixel is found by counting letters. -/
theorem cellAt_text (row : Fin screenHeight) (column : Fin screenWidth) :
    cellAt size (letters (screen.text (ofLetters lit) (ofLetters dark))) row column =
      cellOf lit dark (screen.pixel row column) := by
  have hrow : row.val < ((List.finRange screenHeight).map (line lit dark screen)).length := by
    simp
  have hcolumn : column.val < (List.finRange screenWidth).length := by simp
  have hsize := length_cellOf hlit hdark
  have hbefore : column.val * size ≤ (line lit dark screen row).length := by
    rw [length_line hlit hdark]
    exact Nat.mul_le_mul_right size (Nat.le_of_lt column.isLt)
  -- First the lines before the pixel go, then the cells before it in its line.
  obtain ⟨tail, htail⟩ := exists_intercalate_cons (.char '\n') (line lit dark screen row)
    (((List.finRange screenHeight).map (line lit dark screen)).drop (row.val + 1))
  rw [cellAt, letters_text, drop_intercalate (forall_length_line hlit hdark screen) hrow,
    List.drop_eq_getElem_cons hrow, List.getElem_map, List.getElem_finRange, Fin.cast_mk, Fin.eta,
    htail, List.drop_append_of_le_length hbefore, line,
    drop_flatMap (fun column => hsize (screen.pixel row column)), List.drop_eq_getElem_cons hcolumn,
    List.flatMap_cons, List.getElem_finRange, Fin.cast_mk, Fin.eta, List.append_assoc,
    List.take_left' (hsize _)]

/-- Where the cells differ, they tell which pixels are lit. -/
theorem pack_cellAt_text (hne : lit ≠ dark) :
    (pack fun row column => cellAt size
        (letters (screen.text (ofLetters lit) (ofLetters dark))) row column = lit) = screen := by
  have hlits : (fun row column => decide (cellAt size
      (letters (screen.text (ofLetters lit) (ofLetters dark))) row column = lit)) =
        screen.pixel := by
    funext row column
    rw [cellAt_text hlit hdark]
    cases screen.pixel row column with
    | true => exact decide_eq_true rfl
    | false => exact decide_eq_false hne.symm
  rw [hlits, pack_pixel]

end

end Screen

open Layout Screen
open Text (Letter letters ofLetters)

/-- A text shows all of the screen.  For the bytes of a screen and two different cells of the
same size a host gets 32 lines of 64 cells, with single line ends between the lines.  The cell
of a pixel, which is found by counting letters, is the one for lit or for dark pixels, by the
bit of the pixel: the bits of a byte from the highest on are pixels from left to right, and
eight bytes are a row.  Packing the pixels whose cell is the one for lit pixels gives the
screen back, and no other screen has the same text. -/
theorem texts_exact {lit dark : List Letter} {size : Nat} (hlit : lit.length = size)
    (hdark : dark.length = size) (hne : lit ≠ dark) (screen : Screen) :
    ∃ text, requestText (.ofBytes screen.toList) (.text (ofLetters lit))
        (.text (ofLetters dark)) = .ok text ∧
      letters text = [.char '\n'].intercalate ((List.finRange screenHeight).map fun row =>
        (List.finRange screenWidth).flatMap (cellAt size (letters text) row)) ∧
      (letters text).length = 32 * 64 * size + 31 ∧
      (∀ row column, ∃ byte, screen[8 * row.val + column.val / 8]? = some byte ∧
        cellAt size (letters text) row column =
          if byte.toNat.testBit (7 - column.val % 8) then lit else dark) ∧
      (pack fun row column => cellAt size (letters text) row column = lit) = screen ∧
      ∀ other : Screen, requestText (.ofBytes other.toList) (.text (ofLetters lit))
        (.text (ofLetters dark)) = .ok text → other = screen := by
  refine ⟨_, requestText_eq _ _ _, ?_, length_letters_text hlit hdark screen, ?_,
    pack_cellAt_text hlit hdark screen hne, ?_⟩
  · have hlines : line lit dark screen = fun row => (List.finRange screenWidth).flatMap
        (cellAt size (letters (screen.text (ofLetters lit) (ofLetters dark))) row) := by
      funext row
      exact congrArg (List.flatMap · (List.finRange screenWidth))
        (funext fun column => (cellAt_text hlit hdark screen row column).symm)
    rw [← hlines, letters_text]
  · intro row column
    obtain ⟨byte, hbyte, hpixel⟩ := screen.exists_byte row column
    refine ⟨byte, hbyte, ?_⟩
    rw [cellAt_text hlit hdark, hpixel, cellOf]
  · intro other hother
    rw [requestText_eq, Except.ok.injEq] at hother
    rw [← pack_cellAt_text hlit hdark other hne, hother, pack_cellAt_text hlit hdark screen hne]

/-- Cells of two letters, the second of which is a line end. -/
theorem texts_exact_line_ends :
    let lit : List Letter := [.char '#', .char '\n']
    let dark : List Letter := [.char '.', .char '\n']
    lit.length = 2 ∧ dark.length = 2 ∧ lit ≠ dark ∧
    ∃ text, requestText (.ofBytes Screen.dark.toList) (.text "#\n") (.text ".\n") = .ok text ∧
      (letters text).length = 4127 ∧
      (pack fun row column => cellAt 2 (letters text) row column = lit) = Screen.dark := by
  intro lit dark
  have hlit : lit.length = 2 := rfl
  have hdark : dark.length = 2 := rfl
  have hne : lit ≠ dark := by decide
  have hcells : ofLetters lit = "#\n" ∧ ofLetters dark = ".\n" := by decide
  obtain ⟨text, htext, -, hlength, -, hpack, -⟩ := texts_exact hlit hdark hne Screen.dark
  rw [hcells.1, hcells.2] at htext
  exact ⟨hlit, hdark, hne, text, htext, hlength, hpack⟩

end Chip8
