import Mathlib.Data.List.FinRange
import Chip8.Keypad

/-!
# Held keys

A key is held if its bit is set in the mask.  The lowest held key is that of the lowest
set bit, and only of an empty mask is there none.
-/

namespace Chip8.Keypad

open Layout (keyCount)

variable {keypad : UInt16}

/-- Shifting a mask down and looking at its last bit reads the bit of a key. -/
theorem bit_eq_testBit (keypad : UInt16) {key : Nat} (hkey : key < keyCount) :
    (keypad >>> UInt16.ofNat key &&& 1 == 1) = keypad.toNat.testBit key := by
  have hshift : (UInt16.ofNat key).toNat % 16 = key := by
    rw [UInt16.toNat_ofNat']
    simp only [keyCount] at hkey
    omega
  have hbit : (keypad >>> UInt16.ofNat key &&& 1).toNat = keypad.toNat >>> key % 2 := by
    rw [UInt16.toNat_and, UInt16.toNat_shiftRight, hshift]
    exact Nat.and_one_is_mod _
  rw [Nat.testBit_eq_decide_div_mod_eq, ← Nat.shiftRight_eq_div_pow, ← hbit, Bool.eq_iff_iff,
    beq_iff_eq, decide_eq_true_iff, ← UInt16.toNat_inj]
  rfl

/-- A byte names one of the sixteen keys, and that key is held. -/
def Held (keypad : UInt16) (key : UInt8) : Prop :=
  key.toNat < keyCount ∧ keypad.toNat.testBit key.toNat

instance (keypad : UInt16) (key : UInt8) : Decidable (Held keypad key) :=
  inferInstanceAs (Decidable (_ ∧ _))

/-- The mask that keeps a shift in range changes no byte that names a key. -/
theorem isHeld_iff {key : UInt8} : isHeld keypad key = true ↔ Held keypad key := by
  simp only [isHeld, Held, Bool.and_eq_true, decide_eq_true_iff]
  refine and_congr_right fun hkey => ?_
  have hlt : key.toNat < keyCount := hkey
  have hmasked : key.toUInt16 &&& 0xF = UInt16.ofNat key.toNat := by
    have hmod : (key.toUInt16 &&& 0xF).toNat = key.toNat % 2 ^ 4 :=
      (UInt16.toNat_and ..).trans (Nat.and_two_pow_sub_one_eq_mod _ 4)
    rw [← UInt16.toNat_inj, hmod, UInt16.toNat_ofNat']
    simp only [keyCount] at hlt
    omega
  rw [hmasked, bit_eq_testBit keypad hlt]

/-- The lowest held key is the key of the lowest set bit. -/
theorem lowestHeld?_eq_some_iff {key : Fin keyCount} :
    lowestHeld? keypad = some key ↔
      keypad.toNat.testBit key.val ∧ ∀ lower < key.val, keypad.toNat.testBit lower = false := by
  rw [lowestHeld?, List.find?_eq_some_iff_getElem, bit_eq_testBit keypad key.isLt]
  refine and_congr_right fun _ => ?_
  constructor
  · rintro ⟨place, hplace, hkey, hearlier⟩ lower hlower
    rw [List.getElem_finRange] at hkey
    have hlt : lower < place := by
      rw [← hkey] at hlower
      exact hlower
    have hnot := hearlier lower hlt
    rw [List.getElem_finRange] at hnot
    rw [← bit_eq_testBit keypad (Nat.lt_trans hlower key.isLt)]
    simpa using hnot
  · intro hlower
    refine ⟨key.val, by simp, by simp, ?_⟩
    intro lower hlt
    rw [List.getElem_finRange]
    have hbit := bit_eq_testBit keypad (Nat.lt_trans hlt key.isLt)
    rw [hlower lower hlt] at hbit
    simpa using hbit

/-- With any key held there is a lowest one. -/
theorem lowestHeld?_eq_none_iff : lowestHeld? keypad = none ↔ keypad = 0 := by
  rw [lowestHeld?, List.find?_eq_none]
  constructor
  · intro hnone
    rw [← UInt16.toNat_inj]
    apply Nat.eq_of_testBit_eq
    intro key
    rw [UInt16.toNat_zero, Nat.zero_testBit]
    by_cases hkey : key < keyCount
    · have hnot := hnone ⟨key, hkey⟩ (List.mem_finRange _)
      rw [← bit_eq_testBit keypad hkey]
      simpa using hnot
    · -- A mask has no bits beyond those of its keys.
      apply Nat.testBit_lt_two_pow
      have hbits : 2 ^ keyCount ≤ 2 ^ key := Nat.pow_le_pow_right (by decide) (Nat.not_lt.mp hkey)
      exact Nat.lt_of_lt_of_le keypad.toNat_lt hbits
  · rintro rfl key -
    rw [bit_eq_testBit 0 key.isLt]
    simp

end Chip8.Keypad
