import Chip8.Screen

/-!
# The screen as a grid of pixels

Two ways of taking the packed screen apart agree: `Screen.rows` unpacks it byte by
byte, `Screen.pixel` reads one bit.  `rows_eq_grid` says that the unpacked rows are
the pixels in their order, so that whatever is shown of every pixel is shown of the
unpacked screen.
-/

namespace Chip8.Screen

open Layout

/-- Rows of pixels, each given by its row and column. -/
def grid (lit : Fin screenHeight → Fin screenWidth → Bool) : List (List Bool) :=
  (List.finRange screenHeight).map fun row => (List.finRange screenWidth).map (lit row)

/-- The column of pixels at a place inside a column of bytes. -/
def pixelColumn (column : Fin bytesPerRow) (i : Fin 8) : Fin screenWidth :=
  ⟨8 * column.val + i.val, by
    have hcolumn := column.isLt
    have hi := i.isLt
    simp only [screenWidth, bytesPerRow] at *
    omega⟩

theorem byteColumn_pixelColumn (column : Fin bytesPerRow) (i : Fin 8) :
    byteColumn (pixelColumn column i) = column := by
  have hi := i.isLt
  apply Fin.ext
  simp only [byteColumn, pixelColumn]
  omega

theorem pixelColumn_mod (column : Fin bytesPerRow) (i : Fin 8) :
    (pixelColumn column i).val % 8 = i.val := by
  have hi := i.isLt
  simp only [pixelColumn]
  omega

/-- The columns of pixels, column of bytes by column of bytes. -/
theorem finRange_screenWidth :
    List.finRange screenWidth =
      (List.finRange bytesPerRow).flatMap fun column =>
        (List.finRange 8).map (pixelColumn column) := by
  decide

theorem row_eq_map (screen : Screen) (row : Fin screenHeight) :
    screen.row row = (List.finRange screenWidth).map (screen.pixel row) := by
  have hrange : List.range 8 = (List.finRange 8).map Fin.val := by decide
  rw [finRange_screenWidth, List.map_flatMap, Screen.row]
  congr
  funext column
  rw [bits, hrange, List.map_map, List.map_map]
  apply List.map_congr_left
  intro i _
  simp only [Function.comp_apply, pixel, byteColumn_pixelColumn, pixelColumn_mod]

/-- The unpacked rows are the pixels in their order. -/
theorem rows_eq_grid (screen : Screen) : screen.rows = grid screen.pixel := by
  apply List.map_congr_left
  intro row _
  exact row_eq_map screen row

/-! ### Bytes and pixels -/

/-- Every bit of every byte of the screen is that of a pixel. -/
theorem exists_pixel (p : Fin screenSize) {k : Nat} (hk : k < 8) :
    ∃ (r : Fin screenHeight) (c : Fin screenWidth),
      place r (byteColumn c) = p ∧ 7 - c.val % 8 = k := by
  have hp := p.isLt
  simp only [screenSize] at hp
  have hrow : p.val / 8 < screenHeight := by
    simp only [screenHeight]
    omega
  have hcolumn : 8 * (p.val % 8) + (7 - k) < screenWidth := by
    simp only [screenWidth]
    omega
  refine ⟨⟨p.val / 8, hrow⟩, ⟨8 * (p.val % 8) + (7 - k), hcolumn⟩, ?_, ?_⟩
  · apply Fin.ext
    simp only [place, byteColumn, bytesPerRow]
    omega
  · simp only
    omega

/-- The pixels of a screen determine its bytes. -/
theorem eq_of_pixel_eq {screen other : Screen} (h : ∀ r c, screen.pixel r c = other.pixel r c) :
    screen = other := by
  apply Vector.ext
  intro p hp
  rw [← UInt8.toNat_inj]
  apply Nat.eq_of_testBit_eq
  intro k
  by_cases hk : k < 8
  · obtain ⟨r, c, hplace, hbit⟩ := exists_pixel ⟨p, hp⟩ hk
    have hpixel := h r c
    simp only [pixel, hplace, hbit] at hpixel
    exact hpixel
  · -- A byte has no bits beyond the eighth.
    have hsmall : ∀ byte : UInt8, byte.toNat.testBit k = false := fun byte =>
      Nat.testBit_lt_two_pow (Nat.lt_of_lt_of_le byte.toNat_lt
        (Nat.pow_le_pow_right (by decide) (Nat.not_lt.mp hk)))
    rw [hsmall, hsmall]

theorem place_injective {row row' : Fin screenHeight} {column column' : Fin bytesPerRow}
    (h : place row column = place row' column') : row = row' ∧ column = column' := by
  have hcolumn := column.isLt
  have hcolumn' := column'.isLt
  have hval := congrArg Fin.val h
  simp only [place, bytesPerRow] at *
  constructor <;> apply Fin.ext <;> omega

end Chip8.Screen
