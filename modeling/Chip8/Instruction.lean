import Chip8.Op

/-!
# Instruction words

An instruction is a word of sixteen bits.  Its first nibble, and for some
families its last nibble or byte, select the operation; the other nibbles are
operands.  This file holds the operand fields and the operation they belong to;
how the operation is found is the business of `Chip8.Decode` and of
`Chip8.Decode.Table`.
-/

namespace Chip8

/-- Four bits. -/
abbrev Nibble := Fin 16

namespace Nibble

/-- The upper of the two nibbles in the last byte of an integer. -/
def high (byte : Int) : Nibble := ⟨(byte / 16 % 16).toNat, by omega⟩

/-- The lower of the two nibbles in the last byte of an integer. -/
def low (byte : Int) : Nibble := ⟨(byte % 16).toNat, by omega⟩

end Nibble

/-- The operand fields of an instruction word. -/
structure Operands where
  /-- The word itself. -/
  raw : UInt16
  /-- The second nibble, a register. -/
  x : Nibble
  /-- The third nibble, a register. -/
  y : Nibble
  /-- The fourth nibble, a small number. -/
  n : Nibble
  /-- The last byte. -/
  nn : UInt8
  /-- The last twelve bits, an address. -/
  nnn : UInt16
  deriving DecidableEq, Repr, Inhabited

/-- A decoded instruction: an operation and its operands. -/
structure Instruction extends Operands where
  op : Op
  deriving DecidableEq, Repr, Inhabited

/-- What executing an instruction costs, in microseconds. -/
def Instruction.cost (instruction : Instruction) : Int32 := instruction.op.cost

end Chip8
