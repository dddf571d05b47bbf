import Chip8.Text.Blank
import Chip8.Text.DecimalDigit

/-!
# Integers in texts

A host may write an integer as a text.  Blanks around it, one sign before it and
single underscores between its digits are allowed, and a text with very many
digits is not read at all.
-/

namespace Chip8.Text

/-- The largest number of digits that is read. -/
abbrev maxDigits : Nat := 4300

/-- The number that a run of digits stands for.  No underscore leads, trails or
follows another one. -/
def readDigits? (digits : List Char) : Option Nat := do
  let groups ← (digits.splitOn '_').mapM fun group => group.mapM digitValue?
  let values := groups.flatten
  if groups.any List.isEmpty || maxDigits < values.length then none
  else some (values.foldl (fun total value => 10 * total + value) 0)

/-- The integer that a text stands for. -/
def readInteger? (text : String) : Option Int :=
  match trim text.toList with
  | '-' :: digits => (readDigits? digits).map fun size => -(size : Int)
  | '+' :: digits => (readDigits? digits).map fun size => (size : Int)
  | digits => (readDigits? digits).map fun size => (size : Int)

end Chip8.Text
