import Mathlib.Logic.Function.Basic
import Chip8.Proofs.Decode.Word
import Chip8.Proofs.Execute.Locality

/-!
# Arithmetic is exact

A carry or a borrow is found by comparing a byte that has wrapped with one that has not.
That is the carry or the borrow of the numbers themselves: a sum has wrapped if it is
less than either of its terms, and a difference if it is more than what was taken from
(`toNat_add`, `toNat_subtract`).

An operation reads both of its registers before it writes any, then writes the result, and
then the flag.  So what it leaves in the registers is an update with the result and after
that one with the flag (`leaves_assignFlagged`), whichever of the registers are the same.
-/

namespace Chip8

open Layout Decode

namespace Arithmetic

theorem toNat_flag (set : Bool) : ((flag set).toNat : Int) = if set then 1 else 0 := by
  cases set <;> rfl

variable (a b : UInt8)

/-- A sum has wrapped if it is less than its first term. -/
theorem toNat_add :
    ((add a b).1.toNat : Int) = (a.toNat + b.toNat) % 256 ∧
      ((add a b).2.toNat : Int) = if (256 : Int) ≤ a.toNat + b.toNat then 1 else 0 := by
  have ha := a.toNat_lt
  have hb := b.toNat_lt
  have hsum : (a + b).toNat = (a.toNat + b.toNat) % 256 := UInt8.toNat_add a b
  have hwrapped : a + b < a ↔ (256 : Int) ≤ a.toNat + b.toNat := by
    rw [UInt8.lt_iff_toNat_lt, hsum]
    omega
  refine ⟨?_, ?_⟩
  · rw [add, hsum]
    rfl
  · simp only [add, toNat_flag, hwrapped, decide_eq_true_eq]

/-- A difference has wrapped if it is more than what was taken from. -/
theorem toNat_subtract :
    ((subtract a b).1.toNat : Int) = (a.toNat - b.toNat) % 256 ∧
      ((subtract a b).2.toNat : Int) = if (b.toNat : Int) ≤ a.toNat then 1 else 0 := by
  have ha := a.toNat_lt
  have hb := b.toNat_lt
  have hdifference : ((a - b).toNat : Int) = (a.toNat - b.toNat) % 256 := by
    rw [UInt8.toNat_sub]
    omega
  have hkept : ¬a - b > a ↔ (b.toNat : Int) ≤ a.toNat := by
    rw [gt_iff_lt, UInt8.lt_iff_toNat_lt]
    omega
  refine ⟨hdifference, ?_⟩
  simp only [subtract, toNat_flag, ← decide_not, hkept, decide_eq_true_eq]

theorem toNat_shiftRight :
    ((shiftRight a).1.toNat : Int) = a.toNat / 2 ∧
      ((shiftRight a).2.toNat : Int) = a.toNat % 2 := by
  have hhalf : (a >>> 1).toNat = a.toNat / 2 := by
    rw [UInt8.toNat_shiftRight]
    exact Nat.shiftRight_eq_div_pow _ 1
  have hbit : (a &&& 1).toNat = a.toNat % 2 := by
    rw [UInt8.toNat_and]
    exact Nat.and_one_is_mod _
  exact ⟨congrArg Nat.cast hhalf, congrArg Nat.cast hbit⟩

theorem toNat_shiftLeft :
    ((shiftLeft a).1.toNat : Int) = 2 * a.toNat % 256 ∧
      ((shiftLeft a).2.toNat : Int) = a.toNat / 128 := by
  have hdouble : (a <<< 1).toNat = 2 * a.toNat % 256 := by
    rw [UInt8.toNat_shiftLeft, Nat.shiftLeft_eq, Nat.mul_comm]
    rfl
  have hbit : (a >>> 7).toNat = a.toNat / 128 := by
    rw [UInt8.toNat_shiftRight]
    exact Nat.shiftRight_eq_div_pow _ 7
  exact ⟨congrArg Nat.cast hdouble, congrArg Nat.cast hbit⟩

end Arithmetic

/-- What a register holds, as a number. -/
def State.value (state : State) (i : Fin registerCount) : Int := (state.register i).toNat

namespace Execute

/-- Decoding a word and carrying it out leaves the given numbers in the registers, moves
past the word and changes nothing else. -/
def Leaves (state : State) (word : Int) (values : Fin registerCount → Int) : Prop :=
  ∃ instruction, decode word = .ok instruction ∧
    (state.execute instruction).value = values ∧
    state.execute instruction =
      { state with registers := (state.execute instruction).registers, pc := state.pc + 2 }

variable {state : State} {word : Int} {instruction : Instruction} {x : Nibble}

theorem leaves_assign {value : UInt8} {result : Int} (hdecode : decode word = .ok instruction)
    (hexecute : state.execute instruction = assign x value state)
    (hresult : (value.toNat : Int) = result) :
    Leaves state word (Function.update state.value x result) := by
  refine ⟨instruction, hdecode, funext fun i => ?_, ?_⟩
  · rw [hexecute, State.value, register_assign, Function.update_apply, ← hresult]
    grind [State.value]
  · rw [hexecute]
    rfl

/-- Replacing a register and then the flag leaves the flag where both are the same. -/
theorem leaves_assignFlagged {pair : UInt8 × UInt8} {result flag : Int}
    (hdecode : decode word = .ok instruction)
    (hexecute : state.execute instruction = assignFlagged x pair state)
    (hpair : (pair.1.toNat : Int) = result ∧ (pair.2.toNat : Int) = flag) :
    Leaves state word
      (Function.update (Function.update state.value x result) flagRegister flag) := by
  refine ⟨instruction, hdecode, funext fun i => ?_, ?_⟩
  · rw [hexecute, State.value, register_assignFlagged, Function.update_apply,
      Function.update_apply, ← hpair.1, ← hpair.2]
    grind [State.value]
  · rw [hexecute]
    rfl

/-- A word of the arithmetic family decodes to the operation that has its last digit. -/
theorem decode_arithmetic (op : Op) {y n : Nibble}
    (hpattern : op.pattern = [some 0x8, none, none, some n.val]) :
    decode (wordOf 0x8 x y n) = .ok (instructionOf op 0x8 x y n) :=
  decode_wordOf none (some n.val) hpattern (by decide) (by simp)

end Execute

open Execute

/-- The arithmetic of words is that of integers, whatever the registers hold and whichever
of them are the same.  `8XY4`, `8XY5`, `8XY7`, `8XY6` and `8XYE` leave the sum, the two
differences, the half and the double modulo 256, and then in `VF` whether the sum carries,
whether the difference does not borrow, or the bit that is shifted out; so the flag is
what `VF` holds even if `X` is `F`.  `8XY0` to `8XY3` and `7XNN` leave a copy, the three
bitwise operations and the sum with a constant, and no flag. -/
theorem arithmetic_exact (state : State) (x y : Nibble) :
    let a := state.value x
    let b := state.value y
    let first := (state.register x).toNat
    let second := (state.register y).toNat
    let plain := fun result : Int => Function.update state.value x result
    let flagged := fun result flag : Int =>
      Function.update (Function.update state.value x result) flagRegister flag
    Leaves state (wordOf 0x8 x y 0x4) (flagged ((a + b) % 256) (if 256 ≤ a + b then 1 else 0)) ∧
    Leaves state (wordOf 0x8 x y 0x5) (flagged ((a - b) % 256) (if b ≤ a then 1 else 0)) ∧
    Leaves state (wordOf 0x8 x y 0x7) (flagged ((b - a) % 256) (if a ≤ b then 1 else 0)) ∧
    Leaves state (wordOf 0x8 x y 0x6) (flagged (a / 2) (a % 2)) ∧
    Leaves state (wordOf 0x8 x y 0xE) (flagged (2 * a % 256) (a / 128)) ∧
    Leaves state (wordOf 0x8 x y 0x0) (plain b) ∧
    Leaves state (wordOf 0x8 x y 0x1) (plain (first ||| second : Nat)) ∧
    Leaves state (wordOf 0x8 x y 0x2) (plain (first &&& second : Nat)) ∧
    Leaves state (wordOf 0x8 x y 0x3) (plain (first ^^^ second : Nat)) ∧
    ∀ high low : Nibble,
      Leaves state (wordOf 0x7 x high low) (plain ((a + (0x10 * high.val + low.val)) % 256)) := by
  intro a b first second plain flagged
  refine ⟨?_, ?_, ?_, ?_, ?_, ?_, ?_, ?_, ?_, fun high low => ?_⟩
  · exact leaves_assignFlagged (decode_arithmetic .addReg rfl) rfl
      (Arithmetic.toNat_add _ _)
  · exact leaves_assignFlagged (decode_arithmetic .sub rfl) rfl
      (Arithmetic.toNat_subtract _ _)
  · exact leaves_assignFlagged (decode_arithmetic .subn rfl) rfl
      (Arithmetic.toNat_subtract _ _)
  · exact leaves_assignFlagged (decode_arithmetic .shr rfl) rfl
      (Arithmetic.toNat_shiftRight _)
  · exact leaves_assignFlagged (decode_arithmetic .shl rfl) rfl
      (Arithmetic.toNat_shiftLeft _)
  · exact leaves_assign (decode_arithmetic .ldReg rfl) rfl rfl
  · exact leaves_assign (decode_arithmetic .or rfl) rfl
      (congrArg Nat.cast (UInt8.toNat_or _ _))
  · exact leaves_assign (decode_arithmetic .and rfl) rfl
      (congrArg Nat.cast (UInt8.toNat_and _ _))
  · exact leaves_assign (decode_arithmetic .xor rfl) rfl
      (congrArg Nat.cast (UInt8.toNat_xor _ _))
  · have hdecode : decode (wordOf 0x7 x high low) = .ok (instructionOf .addImm 0x7 x high low) :=
      decode_wordOf none none rfl (by decide) (by simp)
    have hnn : (instructionOf .addImm 0x7 x high low).nn.toNat = 16 * high.val + low.val :=
      toNat_byteOf high low
    refine leaves_assign hdecode rfl ?_
    rw [UInt8.toNat_add, hnn]
    rfl

end Chip8
