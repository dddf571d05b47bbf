import Mathlib.Data.List.Nodup
import Chip8.Proofs.Screen.Grid
import Chip8.Sprite

/-!
# The pixels of a sprite

Drawing a sprite is a list of strokes on packed bytes, two for every row.  This
file says what they do to single pixels.

No two strokes of a sprite fall on the same byte (`nodup_places`): its rows fall
on different rows of the screen, since there are fewer of them, and the left and
the right part of a row fall on neighbouring columns of bytes.  So every byte is
toggled by at most one stroke, and a pixel changes exactly if some stroke has its
bit (`testBit_paint`).

Which stroke has the bit of a pixel is a matter of shifts: bit `7 - j` of a row
drawn at column `x` is the pixel at column `x + j`, in the left part as long as
the byte lasts and in the right part after that (`parts_iff`).  At a byte
boundary the right part is empty.
-/

namespace Chip8

open Layout

namespace Sprite

/-! ### Strokes on different bytes -/

/-- Whether some stroke toggles a bit of a byte. -/
def Touches (strokes : List Stroke) (p : Fin screenSize) (k : Nat) : Prop :=
  ∃ stroke ∈ strokes, stroke.place = p ∧ stroke.bits.toNat.testBit k

instance (strokes : List Stroke) (p : Fin screenSize) (k : Nat) :
    Decidable (Touches strokes p k) :=
  inferInstanceAs (Decidable (∃ stroke ∈ strokes, _))

theorem getElem_apply (stroke : Stroke) (screen : Screen) (p : Fin screenSize) :
    (stroke.apply screen)[p] =
      if stroke.place = p then screen[p] ^^^ stroke.bits else screen[p] := by
  simp only [Stroke.apply, Fin.getElem_fin, Vector.getElem_set]
  by_cases h : stroke.place = p
  · subst h
    simp
  · rw [if_neg (fun hval => h (Fin.ext hval)), if_neg h]

/-- Strokes on different bytes change exactly the bits that one of them has. -/
theorem testBit_paint {strokes : List Stroke} (hnodup : (strokes.map Stroke.place).Nodup)
    (screen : Screen) (p : Fin screenSize) (k : Nat) :
    (paint strokes screen)[p].toNat.testBit k =
      (screen[p].toNat.testBit k ^^ decide (Touches strokes p k)) := by
  induction strokes generalizing screen with
  | nil => simp [paint, Touches]
  | cons stroke rest ih =>
      rw [List.map_cons, List.nodup_cons] at hnodup
      have hpaint : paint (stroke :: rest) screen = paint rest (stroke.apply screen) := rfl
      rw [hpaint, ih hnodup.2, getElem_apply]
      by_cases hplace : stroke.place = p
      -- The other strokes fall on other bytes.
      · have hrest : ¬Touches rest p k := by
          rintro ⟨other, hmem, hother, -⟩
          apply hnodup.1
          rw [hplace, ← hother]
          exact List.mem_map_of_mem hmem
        have hiff : Touches (stroke :: rest) p k ↔ stroke.bits.toNat.testBit k := by
          constructor
          · rintro ⟨other, hmem, hother, hbit⟩
            rcases List.mem_cons.mp hmem with rfl | hmem
            · exact hbit
            · exact absurd ⟨other, hmem, hother, hbit⟩ hrest
          · intro hbit
            exact ⟨stroke, List.mem_cons_self, hplace, hbit⟩
        simp [hplace, hrest, hiff, UInt8.toNat_xor, Nat.testBit_xor]
      · have hiff : Touches (stroke :: rest) p k ↔ Touches rest p k := by
          constructor
          · rintro ⟨other, hmem, hother, hbit⟩
            rcases List.mem_cons.mp hmem with rfl | hmem
            · exact absurd hother hplace
            · exact ⟨other, hmem, hother, hbit⟩
          · rintro ⟨other, hmem, hother, hbit⟩
            exact ⟨other, List.mem_cons_of_mem _ hmem, hother, hbit⟩
        simp [hplace, hiff]

theorem lt_of_testBit {byte : UInt8} {k : Nat} (h : byte.toNat.testBit k) : k < 8 := by
  by_contra hge
  have hsmall : byte.toNat < 2 ^ k :=
    Nat.lt_of_lt_of_le byte.toNat_lt (Nat.pow_le_pow_right (by decide) (by omega))
  rw [Nat.testBit_lt_two_pow hsmall] at h
  contradiction

theorem exists_testBit {byte : UInt8} (h : byte ≠ 0) : ∃ k < 8, byte.toNat.testBit k := by
  have hne : byte.toNat ≠ 0 := fun hzero => h (UInt8.toNat_inj.mp hzero)
  obtain ⟨k, hk⟩ := Nat.exists_testBit_of_ne_zero hne
  exact ⟨k, lt_of_testBit hk, hk⟩

/-- Strokes collide with a screen exactly if one of them has a bit that is set there. -/
theorem collides_iff (strokes : List Stroke) (screen : Screen) :
    collides strokes screen = true ↔
      ∃ (p : Fin screenSize) (k : Nat), k < 8 ∧ screen[p].toNat.testBit k ∧
        Touches strokes p k := by
  simp only [collides, List.any_eq_true, Stroke.erases, bne_iff_ne]
  constructor
  · rintro ⟨stroke, hmem, hne⟩
    obtain ⟨k, hk, hbit⟩ := exists_testBit hne
    rw [UInt8.toNat_and, Nat.testBit_and, Bool.and_eq_true] at hbit
    exact ⟨stroke.place, k, hk, hbit.1, stroke, hmem, rfl, hbit.2⟩
  · rintro ⟨p, k, -, hlit, stroke, hmem, rfl, hbit⟩
    refine ⟨stroke, hmem, fun hzero => ?_⟩
    have hboth : (screen[stroke.place] &&& stroke.bits).toNat.testBit k := by
      rw [UInt8.toNat_and, Nat.testBit_and, hlit, hbit]
      rfl
    rw [hzero] at hboth
    simp at hboth

/-! ### The bits of a row -/

theorem testBit_leftPart (bits : UInt8) (shift : Fin 8) (k : Nat) :
    (leftPart bits shift).toNat.testBit k = bits.toNat.testBit (shift.val + k) := by
  have hshift := shift.isLt
  have hamount : (UInt8.ofNat shift.val).toNat % 8 = shift.val := by
    rw [UInt8.toNat_ofNat']
    omega
  rw [leftPart, UInt8.toNat_shiftRight, hamount, Nat.testBit_shiftRight]

/-- What spills over are the lowest bits of a row, moved up. -/
theorem testBit_rightPart (bits : UInt8) (shift : Fin 8) {k : Nat} (hk : k < 8) :
    (rightPart bits shift).toNat.testBit k ↔
      8 - shift.val ≤ k ∧ bits.toNat.testBit (k - (8 - shift.val)) := by
  have hshift := shift.isLt
  have hamount : (UInt16.ofNat (8 - shift.val)).toNat % 16 = 8 - shift.val := by
    rw [UInt16.toNat_ofNat']
    omega
  rw [rightPart, UInt16.toNat_toUInt8, UInt16.toNat_shiftLeft, hamount, UInt8.toNat_toUInt16,
    Nat.testBit_mod_two_pow, Nat.testBit_mod_two_pow, Nat.testBit_shiftLeft]
  simp [hk, show k < 16 by omega]

/-- The place of a column of pixels inside its byte. -/
def inset (x : Fin screenWidth) : Fin 8 := Fin.ofNat 8 x.val

/-- The two parts of a row drawn at column `x` have, between them, bit `7 - j` of the
row at column `x + j`, from the start of the screen again after its end. -/
theorem parts_iff (bits : UInt8) (x c : Fin screenWidth) :
    Screen.byteColumn c = column x 0 ∧
          (leftPart bits (inset x)).toNat.testBit (7 - c.val % 8) ∨
        Screen.byteColumn c = column x 1 ∧
          (rightPart bits (inset x)).toNat.testBit (7 - c.val % 8) ↔
      ∃ j < 8, c.val = (x.val + j) % screenWidth ∧ bits.toNat.testBit (7 - j) := by
  have hx := x.isLt
  have hc := c.isLt
  simp only [screenWidth] at hx hc
  rw [testBit_leftPart, testBit_rightPart bits (inset x) (by omega)]
  simp only [Screen.byteColumn, column, inset, Fin.val_ofNat, Fin.mk.injEq, screenWidth,
    bytesPerRow]
  constructor
  · rintro (⟨hcolumn, hbit⟩ | ⟨hcolumn, hbit⟩)
    · have hlt := lt_of_testBit hbit
      refine ⟨c.val % 8 - x.val % 8, by omega, by omega, ?_⟩
      rw [show 7 - (c.val % 8 - x.val % 8) = x.val % 8 + (7 - c.val % 8) by omega]
      exact hbit
    · refine ⟨8 - x.val % 8 + c.val % 8, by omega, by omega, ?_⟩
      rw [show 7 - (8 - x.val % 8 + c.val % 8) = 7 - c.val % 8 - (8 - x.val % 8) by omega]
      exact hbit.2
  · rintro ⟨j, hj, hcolumn, hbit⟩
    by_cases hfits : x.val % 8 + j < 8
    · refine Or.inl ⟨by omega, ?_⟩
      rw [show x.val % 8 + (7 - c.val % 8) = 7 - j by omega]
      exact hbit
    · refine Or.inr ⟨by omega, ?_⟩
      refine ⟨by omega, ?_⟩
      rw [show 7 - c.val % 8 - (8 - x.val % 8) = 7 - j by omega]
      exact hbit

/-! ### The strokes of a sprite -/

/-- No sprite is high enough to reach a row of the screen twice. -/
theorem screenRow_injective (y : Fin screenHeight) : Function.Injective (screenRow y) := by
  intro first second h
  have hy := y.isLt
  have hfirst := first.isLt
  have hsecond := second.isLt
  have hval := congrArg Fin.val h
  simp only [screenRow, screenHeight, maxSpriteHeight] at hval hy hfirst hsecond
  apply Fin.ext
  omega

/-- The two bytes that a row of a sprite falls into are never the same. -/
theorem column_zero_ne_one (x : Fin screenWidth) : column x 0 ≠ column x 1 := by
  intro h
  have hx := x.isLt
  have hval := congrArg Fin.val h
  simp only [column, screenWidth, bytesPerRow] at hval hx
  omega

theorem nodup_places (rows : Rows) (x : Fin screenWidth) (y : Fin screenHeight) :
    ((strokes rows x y).map Stroke.place).Nodup := by
  have hpart : ∀ further, ((List.finRange maxSpriteHeight).map fun row =>
      Screen.place (screenRow y row) (column x further)).Nodup := by
    intro further
    apply List.Nodup.map
    · intro first second h
      exact screenRow_injective y (Screen.place_injective h).1
    · exact List.nodup_finRange _
  rw [strokes, List.map_append, List.map_map, List.map_map, List.nodup_append]
  refine ⟨hpart 0, hpart 1, ?_⟩
  intro p hp q hq hpq
  obtain ⟨first, -, rfl⟩ := List.mem_map.mp hp
  obtain ⟨second, -, rfl⟩ := List.mem_map.mp hq
  exact column_zero_ne_one x (Screen.place_injective hpq).2

/-- The strokes of a sprite have the bit of a pixel exactly if the sprite has a bit
there. -/
theorem touches_strokes_iff (rows : Rows) (x c : Fin screenWidth) (y r : Fin screenHeight) :
    Touches (strokes rows x y) (Screen.place r (Screen.byteColumn c)) (7 - c.val % 8) ↔
      ∃ (i : Nat) (hi : i < maxSpriteHeight), r.val = (y.val + i) % screenHeight ∧
        ∃ j < 8, c.val = (x.val + j) % screenWidth ∧ rows[i].toNat.testBit (7 - j) := by
  constructor
  · rintro ⟨stroke, hmem, hplace, hbit⟩
    rcases List.mem_append.mp hmem with hleft | hright
    · obtain ⟨i, -, rfl⟩ := List.mem_map.mp hleft
      obtain ⟨rfl, hc⟩ := Screen.place_injective hplace
      exact ⟨i.val, i.isLt, rfl, (parts_iff _ x c).mp (Or.inl ⟨hc.symm, hbit⟩)⟩
    · obtain ⟨i, -, rfl⟩ := List.mem_map.mp hright
      obtain ⟨rfl, hc⟩ := Screen.place_injective hplace
      exact ⟨i.val, i.isLt, rfl, (parts_iff _ x c).mp (Or.inr ⟨hc.symm, hbit⟩)⟩
  · rintro ⟨i, hi, hr, hbit⟩
    have hrow : r = screenRow y ⟨i, hi⟩ := Fin.ext hr
    have hmem := List.mem_finRange (⟨i, hi⟩ : Fin maxSpriteHeight)
    rcases (parts_iff _ x c).mpr hbit with ⟨hc, hbit⟩ | ⟨hc, hbit⟩
    · refine ⟨_, List.mem_append_left _ (List.mem_map_of_mem hmem), ?_, hbit⟩
      rw [hc, hrow]
    · refine ⟨_, List.mem_append_right _ (List.mem_map_of_mem hmem), ?_, hbit⟩
      rw [hc, hrow]

end Sprite

end Chip8
