/-!
# Arithmetic on bytes

Results wrap at eight bits.  A carry or a borrow is found by comparing the
wrapped result with the first operand; a flag is a byte that is zero or one.
-/

namespace Chip8.Arithmetic

/-- The second operand alone. -/
def set (_ b : UInt8) : UInt8 := b

/-- The bits of either operand. -/
def or (a b : UInt8) : UInt8 := a ||| b

/-- The bits of both operands. -/
def and (a b : UInt8) : UInt8 := a &&& b

/-- The bits of one operand only. -/
def xor (a b : UInt8) : UInt8 := a ^^^ b

/-- The byte of a flag. -/
def flag (set : Bool) : UInt8 := if set then 1 else 0

/-- The sum, and whether it wrapped. -/
def add (a b : UInt8) : UInt8 × UInt8 :=
  let sum := a + b
  (sum, flag (sum < a))

/-- The difference, and whether it did not wrap. -/
def subtract (a b : UInt8) : UInt8 × UInt8 :=
  let difference := a - b
  (difference, flag !(difference > a))

/-- Half the operand, and the bit shifted out. -/
def shiftRight (a : UInt8) : UInt8 × UInt8 := (a >>> 1, a &&& 1)

/-- Twice the operand, and the bit shifted out. -/
def shiftLeft (a : UInt8) : UInt8 × UInt8 := (a <<< 1, a >>> 7)

/-- The three decimal digits of a byte, highest first. -/
def digits (a : UInt8) : Vector UInt8 3 := #v[a / 100, a / 10 % 10, a % 10]

end Chip8.Arithmetic
