import Chip8.Text.Numeral

/-!
# Faults

A fault is the machine's own error: it stops the frame in which it arises and
leaves everything as it was right before the failing instruction.  A fault
carries what a host needs to report it.

Inside a frame a fault is recorded in two small fields, a `StopCode` and one
operand.  `Fault.ofStop` reads such a record back.
-/

namespace Chip8

/-- The machine's own errors. -/
inductive Fault where
  /-- A word, given by its two bytes, matches no operation. -/
  | invalidOp (high low : Int)
  /-- A program does not fit in program memory. -/
  | romTooLarge (size limit : Int)
  /-- A fetch would read past the end of memory. -/
  | pcOutOfBounds (pc : Int)
  /-- An instruction would reach through the index past the end of memory. -/
  | memoryOutOfBounds (address pc : Int)
  /-- A call finds every stack slot in use. -/
  | stackOverflow (pc : Int)
  /-- A return finds the stack empty. -/
  | stackUnderflow (pc : Int)
  deriving DecidableEq, Repr, Inhabited

namespace Fault

open Text (hexadecimal)

/-- What a report says about a program that is too large, given its size and the
limit as they print. -/
def sizeMessage (size limit : String) : String :=
  s!"ROM is {size} bytes, program memory holds at most {limit}"

/-- What a report says about a fault. -/
def message : Fault → String
  | invalidOp high low => "Invalid opcode " ++ hexadecimal 2 high ++ hexadecimal 2 low
  | romTooLarge size limit => sizeMessage (toString size) (toString limit)
  | pcOutOfBounds pc => "PC=0x" ++ hexadecimal 4 pc ++ " is outside fetchable memory"
  | memoryOutOfBounds address pc =>
      "Memory access at 0x" ++ hexadecimal 4 address ++ " out of bounds (PC=0x" ++
        hexadecimal 4 pc ++ ")"
  | stackOverflow pc => "Stack overflow at PC=0x" ++ hexadecimal 4 pc
  | stackUnderflow pc => "Stack underflow at PC=0x" ++ hexadecimal 4 pc

end Fault

/-! ### Stop codes -/

/-- Why a frame stopped before its budget was spent. -/
inductive StopCode where
  /-- It did not: the budget was spent. -/
  | none
  | pcOutOfBounds
  | invalidOp
  | stackOverflow
  | stackUnderflow
  | memoryOutOfBounds
  deriving DecidableEq, Repr, Inhabited

namespace StopCode

/-- Every stop code once, in the order of their numbers. -/
def all : List StopCode :=
  [.none, .pcOutOfBounds, .invalidOp, .stackOverflow, .stackUnderflow, .memoryOutOfBounds]

/-- The number of a stop code. -/
def code : StopCode → UInt8
  | none => 0
  | pcOutOfBounds => 1
  | invalidOp => 2
  | stackOverflow => 3
  | stackUnderflow => 4
  | memoryOutOfBounds => 5

/-- The name under which reports print a stop code. -/
def name : StopCode → String
  | none => "NONE"
  | pcOutOfBounds => "PC_OUT_OF_BOUNDS"
  | invalidOp => "INVALID_OP"
  | stackOverflow => "STACK_OVERFLOW"
  | stackUnderflow => "STACK_UNDERFLOW"
  | memoryOutOfBounds => "MEMORY_OUT_OF_BOUNDS"

end StopCode

/-- The fault that a stop code records, if it records one.  The operand is the
instruction word for an invalid one and the last address touched for an access
past the end of memory; the other faults have none. -/
def Fault.ofStop (stop : StopCode) (pc operand : Int) : Option Fault :=
  match stop with
  | .none => Option.none
  | .pcOutOfBounds => some (.pcOutOfBounds pc)
  | .invalidOp => some (.invalidOp (operand / 256) (operand % 256))
  | .stackOverflow => some (.stackOverflow pc)
  | .stackUnderflow => some (.stackUnderflow pc)
  | .memoryOutOfBounds => some (.memoryOutOfBounds operand pc)

@[simp] theorem Fault.ofStop_none (pc operand : Int) : ofStop .none pc operand = Option.none := rfl

/-- A record reads back as a fault exactly when it stopped the frame. -/
theorem Fault.ofStop_eq_none_iff {stop : StopCode} {pc operand : Int} :
    ofStop stop pc operand = Option.none ↔ stop = .none := by
  cases stop <;> simp [ofStop]

end Chip8
