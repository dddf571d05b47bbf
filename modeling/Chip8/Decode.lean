import Chip8.Argument.Integer
import Chip8.Instruction

/-!
# Decoding by families

`decode` reads an instruction word the way the instruction set is documented:
the first nibble selects a family, and inside some families the last nibble or
the last byte selects the operation.  A word that matches nothing is an invalid
instruction, reported with its two bytes.

Only family zero looks at the second nibble: `00E0` and `00EE` clear the screen
and return, and every other `0NNN` is a call into the host processor.
-/

namespace Chip8

namespace Decode

/-- The operation of an `8XYN` word, by its last nibble. -/
def arithmetic? (n : Nibble) : Option Op :=
  match n.val with
  | 0x0 => some .ldReg
  | 0x1 => some .or
  | 0x2 => some .and
  | 0x3 => some .xor
  | 0x4 => some .addReg
  | 0x5 => some .sub
  | 0x6 => some .shr
  | 0x7 => some .subn
  | 0xE => some .shl
  | _ => none

/-- The operation of an `EXNN` word, by its last byte. -/
def key? (low : UInt8) : Option Op :=
  if low = 0x9E then some .skp
  else if low = 0xA1 then some .sknp
  else none

/-- The operation of an `FXNN` word, by its last byte. -/
def misc? (low : UInt8) : Option Op :=
  if low = 0x07 then some .ldVxDt
  else if low = 0x0A then some .ldVxK
  else if low = 0x15 then some .ldDtVx
  else if low = 0x18 then some .ldStVx
  else if low = 0x1E then some .addI
  else if low = 0x29 then some .ldF
  else if low = 0x33 then some .ldB
  else if low = 0x55 then some .ldMemVx
  else if low = 0x65 then some .ldVxMem
  else none

/-- The operation of a word, by its two bytes.  The last case is family `F`. -/
def select? (high low : UInt8) : Option Op :=
  match (Nibble.high high.toNat).val with
  | 0x0 =>
      if high = 0x00 ∧ low = 0xE0 then some .cls
      else if high = 0x00 ∧ low = 0xEE then some .ret
      else some .sys
  | 0x1 => some .jp
  | 0x2 => some .call
  | 0x3 => some .seImm
  | 0x4 => some .sneImm
  | 0x5 => if (Nibble.low low.toNat).val = 0 then some .seReg else none
  | 0x6 => some .ldImm
  | 0x7 => some .addImm
  | 0x8 => arithmetic? (Nibble.low low.toNat)
  | 0x9 => if (Nibble.low low.toNat).val = 0 then some .sneReg else none
  | 0xA => some .ldI
  | 0xB => some .jpV0
  | 0xC => some .rnd
  | 0xD => some .drw
  | 0xE => key? low
  | _ => misc? low

/-- The operand fields of a word, by its two bytes. -/
def operands (high low : UInt8) : Operands where
  raw := high.toUInt16 <<< 8 ||| low.toUInt16
  x := Nibble.low high.toNat
  y := Nibble.high low.toNat
  n := Nibble.low low.toNat
  nn := low
  nnn := (UInt16.ofNat (Nibble.low high.toNat).val) <<< 8 ||| low.toUInt16

end Decode

/-- Decode an integer, of which only the last sixteen bits matter. -/
def decode (word : Int) : Except Fault Instruction :=
  let high := UInt8.ofNat (word / 256 % 256).toNat
  let low := UInt8.ofNat (word % 256).toNat
  match Decode.select? high low with
  | some op => .ok { Decode.operands high low with op }
  | none => .error (.invalidOp high.toNat low.toNat)

/-- Decode the word that an argument can be turned into. -/
def decodeArgument (word : Argument) : Except Failure Instruction := do
  (decode (← word.toWhole)).mapError .fault

end Chip8
