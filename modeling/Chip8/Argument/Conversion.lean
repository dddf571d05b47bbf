import Chip8.Argument.Integer
import Chip8.Quantity
import Chip8.Text.Letter

/-!
# Conversions

A letter says how a value is to be shown in a template: as it prints, as an integer
in base ten, eight or sixteen, as a double, or as a single character.  Not every
value can be shown in every way, and here is only settled which can.
-/

namespace Chip8.Argument.Conversion

/-- The largest precision of an integer. -/
abbrev maxPrecision : Nat := 0x7FFFFFFC

/-- Check that an integer can be shown with a precision. -/
def checkPrecision (precision : Nat) : Except Failure Unit :=
  if maxPrecision < precision then .error .lengthTooLarge else .ok ()

/-- Check that a value can be shown as an integer in base ten.  A double drops its
fraction. -/
def checkDecimal (precision : Nat) (value : Argument) : Except Failure Unit :=
  match value with
  | truth _ | integer _ => checkPrecision precision
  | real number => do
      discard (truncate number)
      checkPrecision precision
  | nothing | text _ | list _ | table _ => .error .templateMismatch

/-- Check that a value can be shown as an integer in another base. -/
def checkDigits (precision : Nat) (value : Argument) : Except Failure Unit :=
  if value.integer?.isSome then checkPrecision precision else .error .templateMismatch

/-- Check that a value can be shown as a double. -/
def checkDouble (value : Argument) : Except Failure Unit :=
  match value.toQuantity? with
  | none => .error .templateMismatch
  | some number => if number.toFloat?.isSome then .ok () else .error .infinite

/-- Check that a value can be shown as a single character, which it may be or give
by its number. -/
def checkCharacter (value : Argument) : Except Failure Unit :=
  match value with
  | text value =>
      if (Text.letters value).length = 1 then .ok () else .error .templateMismatch
  | _ =>
      match value.integer? with
      | none => .error .templateMismatch
      | some number => if 0 ≤ number ∧ number < 0x110000 then .ok () else .error .lengthTooLarge

/-- Check that a value can be shown in the way that a letter says. -/
def check (letter : Text.Letter) (precision : Nat) (value : Argument) : Except Failure Unit :=
  if letter.isAmong ['s', 'r', 'a'] then .ok ()
  else if letter.isAmong ['d', 'i', 'u'] then checkDecimal precision value
  else if letter.isAmong ['o', 'x', 'X'] then checkDigits precision value
  else if letter.isAmong ['e', 'E', 'f', 'F', 'g', 'G'] then checkDouble value
  else if letter = .char 'c' then checkCharacter value
  else .error .badTemplate

end Chip8.Argument.Conversion
