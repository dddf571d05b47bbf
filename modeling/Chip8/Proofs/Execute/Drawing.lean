import Chip8.Proofs.Decode.Word
import Chip8.Proofs.Execute.Overrun
import Chip8.Proofs.Sprite.Pixels

/-!
# Drawing a sprite

A `DXYN` word toggles the pixels that its sprite covers and reports whether one of
them was lit.  Which pixels a sprite covers is said by `Sprite.Covers`, row by row
and bit by bit and without packed bytes: row `i` of the sprite falls `i` rows below
the position, the bit `7 - j` of a row falls `j` columns to the right of it, and
both start again where the screen ends.

The position is read from two registers before the flag register is written, so one
of them may be the flag register.  The guard lets the word pass exactly if its
sprite lies inside memory; then the rows that are gathered past the end of the
sprite are drawn as zero, and the strokes that are painted are those of the covered
pixels (`touches_spriteStrokes_iff`).
-/

namespace Chip8

open Layout

/-- Whether a sprite of a given height that lies in memory from `origin` on covers the
pixel in row `r` and column `c`, if it is drawn at row `y` and column `x`. -/
def Sprite.Covers (memory : Memory) (origin : Nat) (height : Nibble) (x y : Nat)
    (r : Fin screenHeight) (c : Fin screenWidth) : Prop :=
  ∃ i < height.val, r.val = (y + i) % screenHeight ∧
    ∃ j < 8, c.val = (x + j) % screenWidth ∧
      (memory[origin + i]?).any fun byte => byte.toNat.testBit (7 - j)

instance (memory : Memory) (origin : Nat) (height : Nibble) (x y : Nat)
    (r : Fin screenHeight) (c : Fin screenWidth) :
    Decidable (Sprite.Covers memory origin height x y r c) :=
  inferInstanceAs (Decidable (∃ i < height.val, _ ∧ ∃ j < 8, _))

/-! ### The word -/

/-- The word that draws a sprite of `n` rows at the position in registers `x` and `y`. -/
def drawWord (x y n : Nibble) : Int := 0xD000 + 256 * x.val + 16 * y.val + n.val

/-- The instruction that draws a sprite of `n` rows at the position in registers `x` and
`y`. -/
def drawing (x y n : Nibble) : Instruction :=
  { Decode.operands (UInt8.ofNat (0xD0 + x.val)) (UInt8.ofNat (16 * y.val + n.val)) with
    op := .drw }

section

variable (x y n : Nibble)

theorem drawing_eq : drawing x y n = Decode.instructionOf .drw 0xD x y n := by
  have hfamily : 0xD0 = 16 * (0xD : Nibble).val := by decide
  rw [drawing, hfamily, ← Decode.byteOf, ← Decode.byteOf, Decode.operands_byteOf .drw]
  rfl

@[simp] theorem op_drawing : (drawing x y n).op = .drw := rfl

@[simp] theorem x_drawing : (drawing x y n).x = x := by
  rw [drawing_eq]
  rfl

@[simp] theorem y_drawing : (drawing x y n).y = y := by
  rw [drawing_eq]
  rfl

@[simp] theorem n_drawing : (drawing x y n).n = n := by
  rw [drawing_eq]
  rfl

theorem decode_drawWord : decode (drawWord x y n) = .ok (drawing x y n) := by
  have hword : drawWord x y n = Decode.wordOf 0xD x y n := by
    rw [drawWord, Decode.wordOf]
    omega
  rw [hword, drawing_eq]
  exact Decode.decode_wordOf none none rfl (by decide) (by simp)

theorem check_drawing_eq_ok_iff (state : State) :
    state.check (drawing x y n) = .ok () ↔
      n.val = 0 ∨ state.index.toNat + n.val - 1 ≤ 0xFFF := by
  rw [State.check_eq_ok_iff]
  constructor
  · intro inRange
    by_cases hempty : n.val = 0
    · exact Or.inl hempty
    · -- The last row is one that the drawing reaches.
      have hlast := inRange.memory (state.index.toNat + n.val - 1) (by
        simp only [State.reach, op_drawing, n_drawing, List.mem_range'_1]
        omega)
      simp only [memorySize] at hlast
      exact Or.inr (by omega)
  · intro hfits
    refine ⟨?_, by simp, by simp⟩
    intro address hmem
    simp only [State.reach, op_drawing, n_drawing, List.mem_range'_1] at hmem
    simp only [memorySize]
    omega

end

/-! ### The pixels -/

namespace Execute

variable {state : State} {x y n : Nibble}

/-- The strokes of a drawing have the bit of a pixel exactly if the sprite covers it. -/
theorem touches_spriteStrokes_iff (inRange : InRange state (drawing x y n)) (beyond : Overrun)
    (r : Fin screenHeight) (c : Fin screenWidth) :
    Sprite.Touches (spriteStrokes beyond x y n state)
        (Screen.place r (Screen.byteColumn c)) (7 - c.val % 8) ↔
      Sprite.Covers state.memory state.index.toNat n
        ((state.register x).toNat % screenWidth) ((state.register y).toNat % screenHeight) r c := by
  -- A row of the sprite is a byte of memory.
  have hrow : ∀ (i : Nat) (hheight : i < maxSpriteHeight), i < n.val → ∀ k,
      (Sprite.crop n (Sprite.gather (readByte beyond state) state.index.toNat))[i].toNat.testBit k =
        (state.memory[state.index.toNat + i]?).any fun byte => byte.toNat.testBit k := by
    intro i hheight hi k
    have hlt := inRange.memory (state.index.toNat + i) (by
      simp only [State.reach, op_drawing, n_drawing, List.mem_range'_1]
      omega)
    rw [getElem_crop_gather, if_pos hi, readByte_of_lt _ _ hlt, Vector.getElem?_eq_getElem hlt]
    rfl
  rw [spriteStrokes, Sprite.touches_strokes_iff]
  constructor
  · rintro ⟨i, hheight, hr, j, hj, hc, hbit⟩
    by_cases hi : i < n.val
    · rw [hrow i hheight hi] at hbit
      exact ⟨i, hi, hr, j, hj, hc, hbit⟩
    · rw [getElem_crop_gather, if_neg hi] at hbit
      simp at hbit
  · rintro ⟨i, hi, hr, j, hj, hc, hbit⟩
    have hheight : i < maxSpriteHeight := by
      have hn := n.isLt
      simp only [maxSpriteHeight]
      omega
    refine ⟨i, hheight, hr, j, hj, hc, ?_⟩
    rw [hrow i hheight hi]
    exact hbit

theorem pixel_drawSprite (inRange : InRange state (drawing x y n)) (beyond : Overrun)
    (r : Fin screenHeight) (c : Fin screenWidth) :
    (drawSprite beyond x y n state).screen.pixel r c =
      (state.screen.pixel r c ^^ decide (Sprite.Covers state.memory state.index.toNat n
        ((state.register x).toNat % screenWidth) ((state.register y).toNat % screenHeight)
        r c)) := by
  have hscreen : (drawSprite beyond x y n state).screen =
      Sprite.paint (spriteStrokes beyond x y n state) state.screen := by
    simp only [drawSprite, State.setFlag, State.setRegister, State.advance]
  have hnodup : ((spriteStrokes beyond x y n state).map Stroke.place).Nodup :=
    Sprite.nodup_places _ _ _
  simp only [Screen.pixel, hscreen, Sprite.testBit_paint hnodup,
    touches_spriteStrokes_iff inRange]

/-- The strokes of a drawing collide with the screen exactly if the sprite covers a lit
pixel. -/
theorem collides_spriteStrokes_iff (inRange : InRange state (drawing x y n))
    (beyond : Overrun) :
    Sprite.collides (spriteStrokes beyond x y n state) state.screen = true ↔
      ∃ r c, state.screen.pixel r c ∧
        Sprite.Covers state.memory state.index.toNat n
          ((state.register x).toNat % screenWidth) ((state.register y).toNat % screenHeight)
          r c := by
  rw [Sprite.collides_iff]
  constructor
  · rintro ⟨p, k, hk, hlit, htouched⟩
    obtain ⟨r, c, rfl, rfl⟩ := Screen.exists_pixel p hk
    exact ⟨r, c, hlit, (touches_spriteStrokes_iff inRange beyond r c).mp htouched⟩
  · rintro ⟨r, c, hlit, hcovered⟩
    exact ⟨Screen.place r (Screen.byteColumn c), 7 - c.val % 8, by omega, hlit,
      (touches_spriteStrokes_iff inRange beyond r c).mpr hcovered⟩

theorem register_drawSprite (beyond : Overrun) (i : Fin registerCount) :
    (drawSprite beyond x y n state).register i =
      if flagRegister = i then
        Arithmetic.flag (Sprite.collides (spriteStrokes beyond x y n state) state.screen)
      else state.register i := by
  simp only [drawSprite, State.register_advance, State.setFlag, State.register_setRegister]
  simp only [State.register]

end Execute

/-- A word that draws passes the guard exactly if its sprite is empty or ends inside
memory.  Of the unpacked screen it then toggles the pixels that the sprite covers at the
position that the registers gave beforehand, the flag register says whether one of them
was lit, and no other register changes. -/
theorem drawing_exact (state : State) (x y n : Nibble) :
    decode (drawWord x y n) = .ok (drawing x y n) ∧
    (state.check (drawing x y n) = .ok () ↔
      n.val = 0 ∨ state.index.toNat + n.val - 1 ≤ 0xFFF) ∧
    (state.check (drawing x y n) = .ok () →
      let drawn := state.execute (drawing x y n)
      let lit := state.screen.pixel
      let covered := fun r c => decide (Sprite.Covers state.memory state.index.toNat n
        ((state.register x).toNat % screenWidth) ((state.register y).toNat % screenHeight) r c)
      state.screen.rows = Screen.grid lit ∧
      drawn.screen.rows = Screen.grid (fun r c => lit r c ^^ covered r c) ∧
      drawn.register flagRegister = (if ∃ r c, lit r c ∧ covered r c then 1 else 0) ∧
      ∀ i, i ≠ flagRegister → drawn.register i = state.register i) := by
  refine ⟨decode_drawWord x y n, check_drawing_eq_ok_iff x y n state, ?_⟩
  intro hcheck drawn lit covered
  have inRange := State.check_eq_ok_iff.mp hcheck
  have hdrawn : drawn = Execute.drawSprite state.clamp x y n state := by
    simp only [drawn, State.execute, execute, op_drawing, x_drawing, y_drawing, n_drawing]
  refine ⟨Screen.rows_eq_grid state.screen, ?_, ?_, ?_⟩
  · rw [Screen.rows_eq_grid, hdrawn]
    congr
    funext r c
    exact Execute.pixel_drawSprite inRange state.clamp r c
  · have hcollides := Execute.collides_spriteStrokes_iff inRange state.clamp
    rw [hdrawn, Execute.register_drawSprite, if_pos rfl, Arithmetic.flag]
    simp only [hcollides, lit, covered, decide_eq_true_eq]
  · intro i hi
    rw [hdrawn, Execute.register_drawSprite, if_neg hi.symm]

/-- The glyph of zero fits and meets no lit pixel of a dark screen, also if one of its
coordinates is in the flag register. -/
theorem drawing_exact_glyph :
    let state := State.fresh ⟨0, 0⟩
    state.check (drawing 0 0xF 5) = .ok () ∧
      (state.execute (drawing 0 0xF 5)).register flagRegister = 0 := by
  intro state
  have hcheck : state.check (drawing 0 0xF 5) = .ok () := by decide
  obtain ⟨-, -, hflag, -⟩ := (drawing_exact state 0 0xF 5).2.2 hcheck
  refine ⟨hcheck, ?_⟩
  rw [hflag]
  apply if_neg
  rintro ⟨r, c, hlit, -⟩
  simp [state, State.fresh, Screen.pixel, Screen.dark] at hlit

end Chip8
