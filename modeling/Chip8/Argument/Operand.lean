import Chip8.Argument
import Chip8.Failure

/-!
# Operands handed over by a host

A host may hand over an operand of an arithmetic instruction as a number of any size.
An integer that fits in 64 bits keeps its low eight bits.  A double drops its
fraction and stays between the least and the greatest byte; where it stands for no
number, the operand is zero.
-/

namespace Chip8.Argument

/-- The operand that an argument stands for. -/
def toOperand : Argument → Except Failure UInt8
  | truth value => .ok (if value then 1 else 0)
  | integer value =>
      if -0x8000000000000000 ≤ value ∧ value < 0x10000000000000000 then .ok (UInt8.ofInt value)
      else .error .elementOutOfRange
  | real value => .ok value.toUInt8
  | nothing | text _ | list _ | table _ => .error .notNumber

end Chip8.Argument
