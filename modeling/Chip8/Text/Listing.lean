import Chip8.Text.Letter
import Chip8.Text.Numeral
import Chip8.Text.Printable

/-!
# Listings

Messages list several values between brackets or parentheses.  A text in such a
listing stands between quotes, with everything escaped that would end it early
or that does not print.
-/

namespace Chip8.Text

/-! ### Quoted texts -/

/-- The mark around a quoted text: a single quote, unless the text holds one and
no double quote. -/
def quoteMark (text : List Letter) : Char :=
  if text.contains (.char '\x27') && !text.contains (.char '\x22') then '\x22' else '\x27'

/-- A letter written by its number in base sixteen, in as many places as its range of
numbers takes. -/
def numbered (number : Nat) : String :=
  let digits := String.ofList (Nat.toDigits 16 number)
  if number < 0x100 then "\\x" ++ padLeft 2 '0' digits
  else if number < 0x10000 then "\\u" ++ padLeft 4 '0' digits
  else "\\U" ++ padLeft 8 '0' digits

/-- A letter as it is written between two marks.  Half of a pair does not print. -/
def escaped (mark : Char) : Letter → String
  | .half place => numbered (Letter.half place).number
  | .char c =>
      if c = mark ∨ c = '\\' then String.ofList ['\\', c]
      else if c = '\n' then "\\n"
      else if c = '\r' then "\\r"
      else if c = '\t' then "\\t"
      else if isHidden c then numbered c.toNat
      else ofLetters [.char c]

/-- A text between quotes. -/
def quoted (text : String) : String :=
  let mark := quoteMark (letters text)
  mark.toString ++ String.join ((letters text).map (escaped mark)) ++ mark.toString

/-! ### Several values -/

/-- Values in brackets. -/
def bracketed (values : List String) : String := "[" ++ ", ".intercalate values ++ "]"

/-- Values in parentheses.  A single one is followed by a comma, which tells it
from a value that only stands in parentheses. -/
def parenthesized : List String → String
  | [value] => "(" ++ value ++ ",)"
  | values => "(" ++ ", ".intercalate values ++ ")"

/-- Values in braces. -/
def braced (values : List String) : String := "\x7b" ++ ", ".intercalate values ++ "\x7d"

/-- The names that can be chosen where a host has named something that does not
exist. -/
def choices (names : List String) : String := bracketed (names.map quoted)

end Chip8.Text
