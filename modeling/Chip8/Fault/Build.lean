import Chip8.Argument.Integer
import Chip8.Argument.Print
import Chip8.Fault.Report
import Chip8.Quantity

/-!
# Faults built by a host

A host may build the report of a fault of any kind from its parts.  Each kind
wants a fixed number of parts, except that the two kinds known by their text
alone take any number and print them.  Parts that stand in hexadecimal in the
message have to be integers; a report repeats all parts as they were given.
-/

namespace Chip8

namespace FaultKind

/-- An invalid instruction, given by its two bytes and any further words.  Each
byte is looked at before the next one is asked for. -/
def words : List Argument → Except Failure FaultReport
  | [] => .error .itemMissing
  | high :: rest => do
      let first ← high.toInteger
      match rest with
      | [] => .error .itemMissing
      | low :: more =>
          let fault := Fault.invalidOp first (← low.toInteger)
          return ⟨.invalidOp, fault.message, [("words", .list (high :: low :: more))]⟩

/-- A part of a text as it prints in a listing.  A list of parts stands in
parentheses. -/
def quotePart : Argument → String
  | .list items => Text.parenthesized (items.map Argument.quote)
  | argument => argument.quote

/-- A part of a text as it prints on its own. -/
def printPart : Argument → String
  | .text text => text
  | argument => quotePart argument

/-- The text of a fault that is known by its text alone: its only part, or all of
them in parentheses. -/
def textOf : List Argument → String
  | [] => ""
  | [argument] => printPart argument
  | parts => Text.parenthesized (parts.map quotePart)

/-- A fault at a program counter. -/
def atCounter (fault : Int → Fault) (pc : Argument) : Except Failure FaultReport := do
  let fault := fault (← pc.toInteger)
  return ⟨fault.kind, fault.message, [("pc", pc)]⟩

/-- An access past the end of memory. -/
def atAddress (address pc : Argument) : Except Failure FaultReport := do
  let fault := Fault.memoryOutOfBounds (← address.toInteger) (← pc.toInteger)
  return ⟨fault.kind, fault.message, [("address", address), ("pc", pc)]⟩

/-- The report of a fault that has the given parts. -/
def build (kind : FaultKind) (parts : List Argument) : Except Failure FaultReport :=
  match kind, parts with
  | invalidOp, [.list items] => words items
  | invalidOp, [.text text] =>
      .error (if text.isEmpty then .itemMissing else .notNumeral)
  | invalidOp, [.table entries] =>
      .error (if entries.isEmpty then .itemMissing else .notNumeral)
  | invalidOp, [_] => .error .notNumber
  | romTooLarge, [size, limit] =>
      .ok ⟨romTooLarge, Fault.sizeMessage (printPart size) (printPart limit),
        [("size", size), ("limit", limit)]⟩
  | pcOutOfBounds, [pc] => atCounter .pcOutOfBounds pc
  | memoryOutOfBounds, [address, pc] => atAddress address pc
  | stackOverflow, [pc] => atCounter .stackOverflow pc
  | stackUnderflow, [pc] => atCounter .stackUnderflow pc
  | breakpoint, parts => .ok ⟨breakpoint, textOf parts, []⟩
  | other, parts => .ok ⟨other, textOf parts, []⟩
  | _, _ => .error .wrongPartCount

end FaultKind

/-- The stop code whose number equals an argument. -/
def StopCode.ofArgument? (code : Argument) : Option StopCode := do
  let code ← code.toQuantity?
  all.find? fun stop => code.equal (.whole stop.code.toNat)

/-- The report of the fault that a stop code recorded by number stands for, if it
stands for one.  Only the parts that the fault carries are looked at. -/
def FaultReport.ofCode (code pc operand : Argument) : Except Failure (Option FaultReport) :=
  match StopCode.ofArgument? code with
  | none => .error .unknownStopCode
  | some .none => .ok none
  | some .pcOutOfBounds => (FaultKind.atCounter .pcOutOfBounds pc).map some
  | some .stackOverflow => (FaultKind.atCounter .stackOverflow pc).map some
  | some .stackUnderflow => (FaultKind.atCounter .stackUnderflow pc).map some
  | some .memoryOutOfBounds => (FaultKind.atAddress operand pc).map some
  | some .invalidOp =>
      match operand.integer? with
      | some operand => .ok (some (Fault.invalidOp (operand / 256) (operand % 256)).report)
      | none => .error .notNumber

/-- On integers, a recorded stop code reads back as the fault it was written
for. -/
theorem FaultReport.ofCode_code (stop : StopCode) (pc operand : Int) :
    FaultReport.ofCode (.integer stop.code.toNat) (.integer pc) (.integer operand) =
      .ok ((Fault.ofStop stop pc operand).map Fault.report) := by
  cases stop <;> rfl

end Chip8
