import Chip8.Number.Double

/-!
# The shortest decimal of a double

A message that names a number shows the decimal with the fewest digits that
still reads back as that number; of several equally short ones the nearest.  The
decimals that read back form an interval around the number, whose ends belong to
it when the significand is even.  If a decimal with a given number of digits lies
in that interval, so does one of the two next to the number, and only those are
tried.
-/

namespace Chip8.Number

/-- A positive decimal: a whole number of units of a power of ten. -/
structure Decimal where
  units : Nat
  exponent : Int
  deriving DecidableEq, Repr

namespace Parts

/-- Whether a decimal reads back as a positive number.  Everything is compared in
quarters of the last binary place, in which the number is `4 * significand` and
the ends of the interval are whole. -/
def readsBack (parts : Parts) (decimal : Decimal) : Bool :=
  let quarter := parts.exponent - 2
  let size := decimal.units * Nat.pow 10 decimal.exponent.toNat * Nat.pow 2 (-quarter).toNat
  let place := Nat.pow 10 (-decimal.exponent).toNat * Nat.pow 2 quarter.toNat
  -- Just above a power of two the doubles below lie half as far apart.
  let below := if parts.significand = hiddenBit ∧ -1074 < parts.exponent then 1 else 2
  let least := (4 * parts.significand - below) * place
  let most := (4 * parts.significand + 2) * place
  if parts.significand % 2 = 0 then least ≤ size && size ≤ most
  else least < size && size < most

/-- The position of the leading decimal digit of a positive number. -/
def decimalMagnitude (parts : Parts) : Int :=
  let (numerator, denominator) := parts.ratio
  if denominator ≤ numerator then (toString (numerator / denominator)).length - 1
  else
    let inverse := (denominator + numerator - 1) / numerator
    let digits := (toString inverse).length
    if inverse = Nat.pow 10 (digits - 1) then 1 - (digits : Int) else -(digits : Int)

/-- The decimal next to a positive number that has its last digit in a given
place and reads back, if there is one; of two, the nearer one. -/
def candidate? (parts : Parts) (place : Int) : Option Decimal :=
  let (numerator, denominator) := parts.ratio
  let numerator := numerator * Nat.pow 10 (-place).toNat
  let denominator := denominator * Nat.pow 10 place.toNat
  let nearest := roundHalfEven numerator denominator
  let other := if nearest * denominator ≤ numerator then nearest + 1 else nearest - 1
  [nearest, other].map (fun units => Decimal.mk units place) |>.find? parts.readsBack

/-- The shortest decimal that reads back as a positive number.  Seventeen digits
always suffice. -/
def shortest (parts : Parts) : Decimal :=
  let leading := parts.decimalMagnitude
  let places := (List.range 17).map fun (below : Nat) => leading - Int.ofNat below
  (places.findSome? parts.candidate?).getD ⟨0, 0⟩

end Parts

namespace Decimal

/-- The digits without trailing zeros, and the position of the first of them. -/
def digits (decimal : Decimal) : List Char × Int :=
  let all := (toString decimal.units).toList
  ((all.reverse.dropWhile (· = '0')).reverse, decimal.exponent + all.length - 1)

/-- A decimal in print: positional from a ten-thousandth up to sixteen digits
before the point, with an exponent of at least two digits elsewhere. -/
def print (decimal : Decimal) : String :=
  let (digits, leading) := decimal.digits
  if -4 ≤ leading ∧ leading < 0 then
    "0." ++ String.ofList (List.replicate (-leading - 1).toNat '0' ++ digits)
  else if 0 ≤ leading ∧ leading < 16 then
    let count := leading.toNat + 1
    let whole := digits.take count ++ List.replicate (count - digits.length) '0'
    let fraction := if digits.length ≤ count then ['0'] else digits.drop count
    String.ofList (whole ++ '.' :: fraction)
  else
    let mark := if leading < 0 then "e-" else "e+"
    let exponent := toString leading.natAbs
    let point := if digits.length ≤ 1 then [] else ['.']
    String.ofList (digits.take 1 ++ point ++ digits.drop 1) ++ mark ++
      (if exponent.length < 2 then "0" else "") ++ exponent

end Decimal

/-- A finite double in print. -/
def Parts.print (parts : Parts) : String :=
  (if parts.negative then "-" else "") ++
    (if parts.significand = 0 then "0.0" else parts.shortest.print)

/-- A double in print, or its name. -/
def print (value : Float) : String := (special? value).getD (Parts.ofFloat value).print

end Chip8.Number
