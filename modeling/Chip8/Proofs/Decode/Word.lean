import Chip8.Proofs.Decode.Pattern

/-!
# Words of four nibbles

A word is written as its four nibbles, as the patterns of the documentation are.  A word
that shows the digits of the pattern of an operation decodes to that operation, with the
other nibbles as its operands (`decode_wordOf`).
-/

namespace Chip8.Decode

/-- The word of four nibbles, the first one highest. -/
def wordOf (f x y n : Nibble) : Int := 0x1000 * f.val + 0x100 * x.val + 0x10 * y.val + n.val

/-- The instruction of such a word, if it belongs to an operation. -/
def instructionOf (op : Op) (f x y n : Nibble) : Instruction where
  raw := (byteOf f x).toUInt16 <<< 8 ||| (byteOf y n).toUInt16
  x
  y
  n
  nn := byteOf y n
  nnn := UInt16.ofNat x.val <<< 8 ||| (byteOf y n).toUInt16
  op

variable {op : Op} {f x y n : Nibble}

theorem operands_byteOf (op : Op) :
    operands (byteOf f x) (byteOf y n) = (instructionOf op f x y n).toOperands := by
  simp only [operands, instructionOf, high_byteOf, low_byteOf]

theorem wordOf_eq_join : wordOf f x y n = join (byteOf f x) (byteOf y n) := by
  rw [wordOf, join, toNat_byteOf, toNat_byteOf]
  omega

theorem decode_join {high low : UInt8} (h : op.Selected (join high low)) :
    Chip8.decode (join high low) = .ok { operands high low with op } := by
  have hlow := low.toNat_lt
  have hhigh := high.toNat_lt
  have hfirst : UInt8.ofNat (join high low / 256 % 256).toNat = high := by
    rw [← UInt8.toNat_inj, UInt8.toNat_ofNat', join]
    omega
  have hsecond : UInt8.ofNat (join high low % 256).toNat = low := by
    rw [← UInt8.toNat_inj, UInt8.toNat_ofNat', join]
    omega
  rw [Chip8.decode, hfirst, hsecond, select?_eq_some_iff.mpr h]

/-- The address in an instruction is made of its last three nibbles. -/
theorem toNat_nnn_instructionOf (op : Op) (f x y n : Nibble) :
    (instructionOf op f x y n).nnn.toNat = 0x100 * x.val + (0x10 * y.val + n.val) := by
  rw [instructionOf, toNat_join_nibble, toNat_byteOf]

/-- What a word decodes to is the operation that the patterns select. -/
theorem selected_of_decode {word : Int} {instruction : Instruction}
    (h : Chip8.decode word = .ok instruction) : instruction.op.Selected word := by
  rw [decode_eq_narrow, Table.decode_eq_lookUp] at h
  cases hlookUp : Table.lookUp (narrow word) with
  | none => simp [hlookUp] at h
  | some op =>
      simp only [hlookUp, Except.ok.injEq] at h
      rw [← h]
      exact Table.lookUp_eq_some_iff.mp hlookUp

/-- Outside the first family a word that shows the digits of a pattern decodes to its
operation. -/
theorem decode_wordOf (third fourth : Option Nat)
    (hpattern : op.pattern = [some f.val, none, third, fourth]) (hfamily : f.val ≠ 0)
    (hshows : Shows [y.val, n.val] [third, fourth]) :
    Chip8.decode (wordOf f x y n) = .ok (instructionOf op f x y n) := by
  rw [wordOf_eq_join, decode_join (selected_of_pattern third fourth hpattern hfamily hshows),
    operands_byteOf op]
  rfl

end Chip8.Decode
