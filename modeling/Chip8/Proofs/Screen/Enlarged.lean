import Mathlib.Algebra.Group.Nat.Defs
import Chip8.Proofs.Screen.Bytes
import Chip8.Screen.Picture

/-!
# Enlarged pictures

A picture shows every pixel of the screen as a square of equal cells.  So a cell is found
by dividing its place by the scale (`cell?_enlarge`), whatever the scale is.  At a scale of
one nothing is stretched, and the rule is the same (`render_eq_enlarge`).  Of a picture that
was enlarged too much, every so many rows and columns make the picture at a smaller scale
(`sample_enlarge`).

What a host asks for is that picture, as long as its bytes can be counted in 63 bits and there
is room for them (`request_eq_ok_iff`).  No room is enough for every scale: a scale that does not
fit in 63 bits itself counts no cells at all.
-/

namespace Chip8.Picture

open Layout

variable {Item Other : Type}

/-! ### Stretching -/

/-- The item in some place of a stretched list is found by dividing the place. -/
theorem getElem?_stretch {scale : Nat} (h : 0 < scale) (items : List Item) (i : Nat) :
    (stretch scale items)[i]? = items[i / scale]? := by
  induction items generalizing i with
  | nil => rfl
  | cons item rest ih =>
      have hcons : stretch scale (item :: rest) =
          List.replicate scale item ++ stretch scale rest := List.flatMap_cons
      rw [hcons]
      by_cases hi : i < scale
      · rw [List.getElem?_append_left (by simpa using hi), Nat.div_eq_of_lt hi,
          List.getElem?_replicate_of_lt hi, List.getElem?_cons_zero]
      · have hge : scale ≤ i := Nat.not_lt.mp hi
        have hdiv : i / scale = (i - scale) / scale + 1 := by
          rw [← Nat.add_div_right _ h, Nat.sub_add_cancel hge]
        rw [List.getElem?_append_right (by simpa using hge), List.length_replicate, ih, hdiv,
          List.getElem?_cons_succ]

theorem stretch_one (items : List Item) : stretch 1 items = items := by
  apply List.ext_getElem?
  intro i
  rw [getElem?_stretch Nat.one_pos, Nat.div_one]

theorem map_stretch (f : Item → Other) (scale : Nat) (items : List Item) :
    (stretch scale items).map f = stretch scale (items.map f) := by
  simp only [stretch, List.map_flatMap, List.flatMap_map, List.map_replicate]

/-! ### Cells -/

/-- The cell in a row and column, if there is one. -/
def cell? (picture : Picture) (row column : Nat) : Option Color :=
  picture[row]?.bind fun cells => cells[column]?

theorem cell?_enlarge {scale : Nat} (h : 0 < scale) (picture : Picture) (row column : Nat) :
    (enlarge scale picture).cell? row column = picture.cell? (row / scale) (column / scale) := by
  rw [cell?, cell?, enlarge, getElem?_stretch h, List.getElem?_map]
  cases picture[row / scale]? with
  | none => rfl
  | some cells => exact getElem?_stretch h cells column

theorem ofScreen_eq_grid (palette : Palette) (screen : Screen) :
    ofScreen palette screen =
      (List.finRange screenHeight).map fun row =>
        (List.finRange screenWidth).map fun column => palette.color (screen.pixel row column) := by
  rw [ofScreen, Screen.rows_eq_grid, Screen.grid, List.map_map]
  refine List.map_congr_left fun row _ => ?_
  exact List.map_map

theorem cell?_ofScreen (palette : Palette) (screen : Screen) (row : Fin screenHeight)
    (column : Fin screenWidth) :
    (ofScreen palette screen).cell? row column =
      some (palette.color (screen.pixel row column)) := by
  have hrow : (List.finRange screenHeight)[row.val]? = some row := by simp
  have hcolumn : (List.finRange screenWidth)[column.val]? = some column := by simp
  rw [cell?, ofScreen_eq_grid, List.getElem?_map, hrow, Option.map_some, Option.bind_some,
    List.getElem?_map, hcolumn, Option.map_some]

theorem length_ofScreen (palette : Palette) (screen : Screen) :
    (ofScreen palette screen).length = screenHeight := by
  rw [ofScreen, List.length_map, Screen.length_rows]

theorem length_of_mem_ofScreen {palette : Palette} {screen : Screen} {cells : List Color}
    (h : cells ∈ ofScreen palette screen) : cells.length = screenWidth := by
  rw [ofScreen_eq_grid] at h
  obtain ⟨row, -, rfl⟩ := List.mem_map.mp h
  rw [List.length_map, List.length_finRange]

/-! ### Pictures of the screen -/

/-- A scale of one, at which nothing is stretched, is no exception. -/
theorem render_eq_enlarge {scale : Nat} (h : 0 < scale) (palette : Palette) (screen : Screen) :
    render scale palette screen = enlarge scale (ofScreen palette screen) := by
  rw [render]
  split
  case isTrue => rfl
  case isFalse hle =>
    have hone : scale = 1 := by omega
    have hstretch : (stretch 1 : List Color → List Color) = id := funext stretch_one
    rw [hone, enlarge, stretch_one, hstretch, List.map_id]

theorem length_render {scale : Nat} (h : 0 < scale) (palette : Palette) (screen : Screen) :
    (render scale palette screen).length = screenHeight * scale := by
  rw [render_eq_enlarge h, enlarge, length_stretch, List.length_map, length_ofScreen,
    Nat.mul_comm]

theorem length_of_mem_render {scale : Nat} (h : 0 < scale) {palette : Palette} {screen : Screen}
    {cells : List Color} (hmem : cells ∈ render scale palette screen) :
    cells.length = screenWidth * scale := by
  rw [render_eq_enlarge h, enlarge, stretch, List.mem_flatMap] at hmem
  obtain ⟨wide, hwide, hcells⟩ := hmem
  obtain ⟨row, hrow, rfl⟩ := List.mem_map.mp hwide
  rw [List.eq_of_mem_replicate hcells, length_stretch, length_of_mem_ofScreen hrow, Nat.mul_comm]

/-- A cell of a picture shows the bit of its pixel. -/
theorem cell?_render {scale : Nat} (h : 0 < scale) (palette : Palette) (screen : Screen)
    {row column : Nat} (hrow : row < screenHeight * scale)
    (hcolumn : column < screenWidth * scale) :
    ∃ byte, screen[8 * (row / scale) + column / scale / 8]? = some byte ∧
      (render scale palette screen).cell? row column =
        some
          (if byte.toNat.testBit (7 - column / scale % 8) then palette.lit else palette.dark) := by
  have hheight : row / scale < screenHeight := Nat.div_lt_of_lt_mul (by rwa [Nat.mul_comm])
  have hwidth : column / scale < screenWidth := Nat.div_lt_of_lt_mul (by rwa [Nat.mul_comm])
  obtain ⟨byte, hbyte, hpixel⟩ := screen.exists_byte ⟨_, hheight⟩ ⟨_, hwidth⟩
  refine ⟨byte, hbyte, ?_⟩
  have hcell := cell?_ofScreen palette screen ⟨_, hheight⟩ ⟨_, hwidth⟩
  rw [render_eq_enlarge h, cell?_enlarge h, hcell, hpixel, Palette.color]

/-! ### Samples -/

/-- Every so many items of a list, from the first one on. -/
def everyNth (step : Nat) : List Item → List Item
  | [] => []
  | item :: rest => item :: everyNth step (rest.drop (step - 1))
termination_by items => items.length
decreasing_by
  simp only [List.length_drop, List.length_cons]
  omega

/-- Every so many rows of a picture, and of them every so many cells. -/
def sample (step : Nat) (picture : Picture) : Picture := (everyNth step picture).map (everyNth step)

theorem getElem?_everyNth {step : Nat} (h : 0 < step) (items : List Item) (i : Nat) :
    (everyNth step items)[i]? = items[step * i]? := by
  induction i generalizing items with
  | zero => cases items <;> simp [everyNth]
  | succ i ih =>
      cases items with
      | nil => simp [everyNth]
      | cons item rest =>
          have hplace : step * (i + 1) = step - 1 + step * i + 1 := by
            rw [Nat.mul_succ]
            omega
          rw [everyNth, List.getElem?_cons_succ, ih, List.getElem?_drop, hplace,
            List.getElem?_cons_succ]

theorem everyNth_stretch {scale step : Nat} (hscale : 0 < scale) (hstep : 0 < step)
    (items : List Item) : everyNth step (stretch (scale * step) items) = stretch scale items := by
  apply List.ext_getElem?
  intro i
  rw [getElem?_everyNth hstep, getElem?_stretch (Nat.mul_pos hscale hstep),
    getElem?_stretch hscale, Nat.mul_comm scale, Nat.mul_div_mul_left _ _ hstep]

/-- A sample of an enlarged picture is the picture at a smaller scale. -/
theorem sample_enlarge {scale step : Nat} (hscale : 0 < scale) (hstep : 0 < step)
    (picture : Picture) : sample step (enlarge (scale * step) picture) = enlarge scale picture := by
  have hrow : (everyNth step ∘ stretch (scale * step) : List Color → List Color) =
      stretch scale := funext (everyNth_stretch hscale hstep)
  rw [sample, enlarge, everyNth_stretch hscale hstep, map_stretch, List.map_map, hrow, enlarge]

/-! ### What a host asks for -/

theorem checkBytes_eq_ok_iff {room bytes : Nat} :
    checkBytes room bytes = .ok () ↔ bytes < 2 ^ 63 ∧ bytes ≤ room := by
  unfold checkBytes
  split
  case isTrue hmany => exact iff_of_false nofun fun h => absurd hmany (Nat.not_le.mpr h.1)
  case isFalse hfew =>
    split
    case isTrue hlarge => exact iff_of_false nofun fun h => absurd hlarge (Nat.not_lt.mpr h.2)
    case isFalse hfits => exact iff_of_true rfl ⟨Nat.not_le.mp hfew, Nat.not_lt.mp hfits⟩

theorem checkBytes_eq_error {room bytes : Nat} {failure : Failure}
    (h : checkBytes room bytes = .error failure) :
    failure = .pictureUncountable ∨ failure = .outOfMemory := by
  unfold checkBytes at h
  split at h
  · exact Or.inl (Except.error.inj h).symm
  · split at h
    · exact Or.inr (Except.error.inj h).symm
    · contradiction

/-- What is stretched both ways takes no less room than what is stretched downwards only, so
that the whole picture decides. -/
theorem checkSize_eq_ok_iff {room scale : Nat} (h : 0 < scale) :
    checkSize room scale = .ok () ↔
      byteCount scale scale < 2 ^ 63 ∧ byteCount scale scale ≤ room := by
  have hdown : byteCount 1 scale ≤ byteCount scale scale :=
    Nat.mul_le_mul_right _ (Nat.mul_le_mul_left 3 (Nat.mul_le_mul_left _ h))
  rw [← checkBytes_eq_ok_iff, checkSize]
  cases hcheck : checkBytes room (byteCount 1 scale) with
  | ok fits => rfl
  | error failure =>
      refine iff_of_false nofun fun hall => ?_
      obtain ⟨hcount, hroom⟩ := checkBytes_eq_ok_iff.mp hall
      have hfits : checkBytes room (byteCount 1 scale) = .ok () :=
        checkBytes_eq_ok_iff.mpr ⟨Nat.lt_of_le_of_lt hdown hcount, Nat.le_trans hdown hroom⟩
      rw [hcheck] at hfits
      contradiction

theorem checkSize_eq_error {room scale : Nat} {failure : Failure}
    (h : checkSize room scale = .error failure) :
    failure = .pictureUncountable ∨ failure = .outOfMemory := by
  unfold checkSize at h
  simp only [bind, Except.bind] at h
  split at h
  case h_1 found hdown =>
    rw [← Except.error.inj h]
    exact checkBytes_eq_error hdown
  case h_2 => exact checkBytes_eq_error h

theorem toScale_integer {scale : Nat} (h : 0 < scale) :
    (Argument.integer scale).toScale = .ok (.whole scale) := by
  have hnot : ¬(scale : Int) < 1 := by omega
  simp only [Argument.toScale, Argument.toQuantity?_integer, Quantity.less_whole, hnot,
    decide_false, Bool.false_eq_true, if_false]

theorem toEnlargement_one : (Quantity.whole 1).toEnlargement = .ok 1 := by
  rw [Quantity.toEnlargement, Quantity.less_whole]
  rfl

theorem toEnlargement_of_lt {scale : Nat} (h : 1 < scale) :
    (Quantity.whole scale).toEnlargement =
      if (scale : Int) < 0x8000000000000000 then .ok scale else .error .lengthTooLarge := by
  have hmore : Quantity.less (.whole 1) (.whole scale) = true := by
    rw [Quantity.less_whole]
    exact decide_eq_true (by omega)
  -- Unfolding the limit along with the bind would make the kernel count up to it.
  have hbind (next : Int → Except Failure Nat) :
      (Argument.ofQuantity (.whole scale)).toWhole >>= next = next scale := rfl
  rw [Quantity.toEnlargement, if_pos hmore, hbind, Int.toNat_natCast]

/-- The number of cells along a pixel is the scale, if it fits in 63 bits. -/
theorem toEnlargement_whole {scale : Nat} (h : 0 < scale) (hbits : scale < 0x8000000000000000) :
    (Quantity.whole scale).toEnlargement = .ok scale := by
  rcases Nat.eq_or_lt_of_le h with rfl | hmore
  · exact toEnlargement_one
  · rw [toEnlargement_of_lt hmore, if_pos (by omega)]

section Request

variable {scale : Nat} (h : 0 < scale) (palette : Palette) (screen : Screen) (room : Nat)

include h

/-- Reading what a host hands over leaves the scale to be checked, in both respects. -/
theorem request_eq :
    request room (.ofBytes screen.toList) (.integer scale)
        ⟨.ofColor palette.lit, .ofColor palette.dark⟩ =
      (do
        let scale ← (Quantity.whole scale).toEnlargement
        checkSize room scale
        return render scale palette screen) := by
  simp only [request, toScale_integer h, Argument.toScreen_ofBytes, Argument.toBrush_ofColor,
    paint_solid, render, bind, Except.bind]

/-- Whatever the scale is, a host gets the picture at this scale or none, and in that case the
scale or the picture was too large. -/
theorem request_cases :
    request room (.ofBytes screen.toList) (.integer scale)
        ⟨.ofColor palette.lit, .ofColor palette.dark⟩ =
      if scale < 2 ^ 63 then (checkSize room scale).map fun _ => render scale palette screen
      else .error .lengthTooLarge := by
  rw [request_eq h]
  split
  case isTrue hbits =>
    rw [toEnlargement_whole h hbits]
    rfl
  case isFalse hlarge =>
    have hover : ¬(scale : Int) < 0x8000000000000000 := by omega
    rw [toEnlargement_of_lt (by omega), if_neg hover]
    rfl

/-- A host gets the picture as long as its bytes can be counted and there is room for them. -/
theorem request_eq_ok_iff (picture : Picture) :
    request room (.ofBytes screen.toList) (.integer scale)
        ⟨.ofColor palette.lit, .ofColor palette.dark⟩ = .ok picture ↔
      (byteCount scale scale < 2 ^ 63 ∧ byteCount scale scale ≤ room) ∧
        picture = render scale palette screen := by
  rw [request_cases h]
  split
  case isTrue hbits =>
    rw [← checkSize_eq_ok_iff h]
    cases checkSize room scale with
    | ok fits => simp [Except.map, eq_comm]
    | error failure => simp [Except.map]
  case isFalse hlarge =>
    -- A picture whose bytes can be counted has a scale that can.
    have hle : scale ≤ byteCount scale scale :=
      calc scale ≤ screenHeight * scale := Nat.le_mul_of_pos_left _ (by decide)
        _ ≤ byteCount scale scale :=
          Nat.le_mul_of_pos_left _ (Nat.mul_pos (by decide) (Nat.mul_pos (by decide) h))
    exact iff_of_false nofun fun hfits => hlarge (Nat.lt_of_le_of_lt hle hfits.1.1)

theorem request_eq_error {failure : Failure}
    (hrequest : request room (.ofBytes screen.toList) (.integer scale)
      ⟨.ofColor palette.lit, .ofColor palette.dark⟩ = .error failure) :
    failure = .lengthTooLarge ∨ failure = .pictureUncountable ∨ failure = .outOfMemory := by
  rw [request_cases h] at hrequest
  split at hrequest
  case isTrue =>
    cases hsize : checkSize room scale with
    | ok fits => simp [hsize, Except.map] at hrequest
    | error found =>
        rw [hsize] at hrequest
        rw [← Except.error.inj hrequest]
        exact Or.inr (checkSize_eq_error hsize)
  case isFalse => exact Or.inl (Except.error.inj hrequest).symm

end Request

end Chip8.Picture

namespace Chip8

open Layout Picture

/-- A picture at any scale shows the screen exactly.  It has 32 rows of 64 cells, times the
scale both ways.  The cell in a row and column has one of the two colours, by the bit of the
pixel that is found by dividing the row and the column by the scale: the bits of a byte from
the highest on are pixels from left to right, and eight bytes are a row.  If the picture is
enlarged further, every so many rows and columns of it are the picture again.

This is what a host gets for the bytes of a screen, a scale of at least one and two colours,
as long as the bytes of the picture can be counted in 63 bits and there is room for them,
however much room that is.  A host never gets another picture, and where it gets none it is told
that the scale or the picture is too large. -/
theorem pictures_exact (screen : Screen) (palette : Palette) {scale : Nat} (h : 1 ≤ scale) :
    let picture := render scale palette screen
    let bytes := 3 * (64 * scale) * (32 * scale)
    let requested (room : Nat) := request room (.ofBytes screen.toList) (.integer scale)
      ⟨.ofColor palette.lit, .ofColor palette.dark⟩
    (∀ room, bytes < 2 ^ 63 → bytes ≤ room → requested room = .ok picture) ∧
    (∀ room other, requested room = .ok other → other = picture) ∧
    (∀ room failure, requested room = .error failure →
      (2 ^ 63 ≤ bytes ∨ room < bytes) ∧
        (failure = .lengthTooLarge ∨ failure = .pictureUncountable ∨ failure = .outOfMemory)) ∧
    picture.length = 32 * scale ∧
    (∀ cells ∈ picture, cells.length = 64 * scale) ∧
    (∀ row < 32 * scale, ∀ column < 64 * scale,
      ∃ byte, screen[8 * (row / scale) + column / scale / 8]? = some byte ∧
        picture.cell? row column =
          some (if byte.toNat.testBit (7 - column / scale % 8) then palette.lit
            else palette.dark)) ∧
    ∀ step, 1 ≤ step → sample step (render (scale * step) palette screen) = picture := by
  intro picture bytes requested
  have hok (room : Nat) (other : Picture) :
      requested room = .ok other ↔ (bytes < 2 ^ 63 ∧ bytes ≤ room) ∧ other = picture :=
    request_eq_ok_iff h palette screen room other
  refine ⟨fun room hcount hroom => (hok room picture).mpr ⟨⟨hcount, hroom⟩, rfl⟩,
    fun room other hother => ((hok room other).mp hother).2, ?_,
    length_render h palette screen, fun cells hcells => length_of_mem_render h hcells, ?_, ?_⟩
  · intro room failure hfailure
    refine ⟨?_, request_eq_error h palette screen room hfailure⟩
    rcases Nat.lt_or_ge bytes (2 ^ 63) with hcount | hmany
    · rcases Nat.lt_or_ge room bytes with hlarge | hroom
      · exact Or.inr hlarge
      · have hmade := (hok room picture).mpr ⟨⟨hcount, hroom⟩, rfl⟩
        rw [hfailure] at hmade
        contradiction
    · exact Or.inl hmany
  · intro row hrow column hcolumn
    exact cell?_render h palette screen hrow hcolumn
  · intro step hstep
    rw [render_eq_enlarge (Nat.mul_pos h hstep), sample_enlarge h hstep, ← render_eq_enlarge h]

/-- A dark screen in amber, a thousand cells along each pixel and four. -/
theorem pictures_exact_amber :
    let palette := Scheme.amber.palette
    let requested (scale : Nat) := request 0x200000000 (.ofBytes Screen.dark.toList)
      (.integer scale) ⟨.ofColor palette.lit, .ofColor palette.dark⟩
    1 ≤ 1000 ∧ 1 ≤ 4 ∧
    requested 1000 = .ok (render 1000 palette Screen.dark) ∧
    requested 4 = .ok (render 4 palette Screen.dark) ∧
    (render 4 palette Screen.dark).length = 128 ∧
    sample 2 (render 8 palette Screen.dark) = render 4 palette Screen.dark := by
  intro palette requested
  have hlarge : 1 ≤ 1000 := by decide
  have hscale : 1 ≤ 4 := by decide
  obtain ⟨hmade, -⟩ := pictures_exact Screen.dark palette hlarge
  obtain ⟨hrequest, -, -, hlength, -, -, hsample⟩ := pictures_exact Screen.dark palette hscale
  exact ⟨hlarge, hscale, hmade 0x200000000 (by decide) (by decide),
    hrequest 0x200000000 (by decide) (by decide), hlength, hsample 2 (by decide)⟩

/-- No picture is made at a scale of 64 bits, however much room there is. -/
theorem picture_refused_at_two_pow_63 :
    1 ≤ 0x8000000000000000 ∧
    ∀ room, request room (.ofBytes Screen.dark.toList) (.integer (0x8000000000000000 : Nat))
      ⟨.ofColor Scheme.classic.palette.lit, .ofColor Scheme.classic.palette.dark⟩ =
        .error .lengthTooLarge := by
  have hscale : 0 < 0x8000000000000000 := by decide
  have hlarge : ¬0x8000000000000000 < 2 ^ 63 := by decide
  refine ⟨hscale, fun room => ?_⟩
  rw [request_cases hscale, if_neg hlarge]

end Chip8
