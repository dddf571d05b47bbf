import Chip8.Argument
import Chip8.Failure
import Chip8.Number.Double
import Chip8.Text.Integer

/-!
# Integers handed over by a host

Some operations take whatever can be turned into an integer: a number drops its
fraction and a text is read.  Where a message prints a number in a column, only
an integer will do.  Either way an argument is refused for its value or for its
type.
-/

namespace Chip8.Argument

/-- A number without its fraction. -/
def truncate (value : Float) : Except Failure Int :=
  if Number.isFinite value then .ok (Number.Parts.ofFloat value).truncate
  else if value == value then .error .infinite
  else .error .notNumeral

/-- The integer that an argument can be turned into. -/
def toWhole : Argument → Except Failure Int
  | truth value => .ok (if value then 1 else 0)
  | integer value => .ok value
  | real value => truncate value
  | text value =>
      match Text.readInteger? value with
      | some value => .ok value
      | none => .error .notNumeral
  | nothing | list _ | table _ => .error .notNumber

/-- The integer that an argument is. -/
def toInteger : Argument → Except Failure Int
  | truth value => .ok (if value then 1 else 0)
  | integer value => .ok value
  | real _ | text _ => .error .notNumeral
  | nothing | list _ | table _ => .error .notNumber

/-- An argument as a numeral of a given form. -/
def format (numeral : Int → String) (argument : Argument) : Except Failure String :=
  argument.toInteger.map numeral

@[simp] theorem toWhole_integer (value : Int) : (integer value).toWhole = .ok value := rfl

end Chip8.Argument
