/-!
# Numerals of fixed least width

Messages and log lines print integers in columns.  A numeral shorter than its
column is filled on the left and a longer one is never cut, so no digit is
lost.  In hexadecimal the sign counts towards the width: the address `-1`
printed in four places is `-001`.
-/

namespace Chip8.Text

/-- Fill a text on the left until it has at least `width` characters. -/
def padLeft (width : Nat) (fill : Char) (text : String) : String :=
  String.ofList (List.replicate (width - text.length) fill) ++ text

/-- An integer in decimal, right-aligned in `width` places. -/
def decimal (width : Nat) (value : Int) : String :=
  padLeft width ' ' (toString value)

/-- The digits of a natural number in base sixteen, letters in upper case. -/
def hexDigits (value : Nat) : String :=
  String.ofList ((Nat.toDigits 16 value).map Char.toUpper)

/-- An integer in hexadecimal, with zeros between the sign and the digits up to
`width` places. -/
def hexadecimal (width : Nat) (value : Int) : String :=
  if value < 0 then
    "-" ++ padLeft (width - 1) '0' (hexDigits value.natAbs)
  else
    padLeft width '0' (hexDigits value.natAbs)

/-- A text right-aligned in `width` places. -/
def alignRight (width : Nat) (text : String) : String :=
  padLeft width ' ' text

/-- Padding never shortens a text. -/
theorem length_padLeft (width : Nat) (fill : Char) (text : String) :
    (padLeft width fill text).length = max width text.length := by
  simp only [padLeft, String.length_append, String.length_ofList, List.length_replicate]
  omega

end Chip8.Text
