/-!
# Exact readings of double-precision numbers

A finite double is a whole significand times a power of two.  Everything this
library prints or counts from a double is worked out on those two integers, so
that no second rounding can slip in:

* `Parts.truncate` drops the fraction;
* `Parts.fixed` prints a fixed number of decimals, a half going to the even
  neighbour;
* `quotientBits` rounds a quotient of integers to the nearest double, once, and
  `ofInt?` does so for an integer.

A double that is not finite has a name instead of digits, see `special?`.
-/

namespace Chip8.Number

/-! ### Rounding -/

/-- The integer nearest to a quotient; of two equally near ones, the even one. -/
def roundHalfEven (numerator denominator : Nat) : Nat :=
  let quotient := numerator / denominator
  let twice := 2 * (numerator % denominator)
  if twice < denominator then quotient
  else if denominator < twice then quotient + 1
  else quotient + quotient % 2

/-! ### Parts of a double -/

/-- A finite double: its sign, a whole significand and a power of two. -/
structure Parts where
  negative : Bool
  significand : Nat
  exponent : Int
  deriving DecidableEq, Repr

/-- The leading bit of the significand, which the bits of a double leave out. -/
abbrev hiddenBit : Nat := 0x10000000000000

/-- The bit of the sign. -/
abbrev signBit : Nat := 0x8000000000000000

/-- Whether a double has parts.  The others have the largest exponent field. -/
def isFinite (value : Float) : Bool := value.toBits.toNat / hiddenBit % 2048 != 2047

/-- The name of a double that is not finite: one of the infinite ones, or the
result of an operation that has none. -/
def special? (value : Float) : Option String :=
  let bits := value.toBits.toNat
  if isFinite value then none
  else if bits % hiddenBit != 0 then some "nan"
  else if bits / signBit == 1 then some "-inf"
  else some "inf"

namespace Parts

/-- The parts of a finite double, read off its bits. -/
def ofFloat (value : Float) : Parts :=
  let bits := value.toBits.toNat
  let field := bits / hiddenBit % 2048
  let fraction := bits % hiddenBit
  { negative := bits / signBit == 1
    significand := if field = 0 then fraction else hiddenBit + fraction
    exponent := (max field 1 : Nat) - 1075 }

/-- The size of the number, as a quotient of two natural numbers. -/
def ratio (parts : Parts) : Nat × Nat :=
  (parts.significand * Nat.pow 2 parts.exponent.toNat, Nat.pow 2 (-parts.exponent).toNat)

/-- The number, as a quotient of an integer and a positive natural number. -/
def signedRatio (parts : Parts) : Int × Nat :=
  let (numerator, denominator) := parts.ratio
  (if parts.negative then -(numerator : Int) else numerator, denominator)

/-- The number without its fraction. -/
def truncate (parts : Parts) : Int :=
  let (numerator, denominator) := parts.ratio
  if parts.negative then -((numerator / denominator : Nat) : Int)
  else (numerator / denominator : Nat)

/-- The number with a fixed, positive number of decimals.  A negative zero keeps
its sign. -/
def fixed (places : Nat) (parts : Parts) : String :=
  let (numerator, denominator) := parts.ratio
  let scale := Nat.pow 10 places
  let units := roundHalfEven (numerator * scale) denominator
  let fraction := toString (units % scale)
  (if parts.negative then "-" else "") ++ toString (units / scale) ++ "." ++
    String.ofList (List.replicate (places - fraction.length) '0') ++ fraction

end Parts

/-- A double with a fixed, positive number of decimals, or by its name. -/
def fixed (places : Nat) (value : Float) : String :=
  (special? value).getD ((Parts.ofFloat value).fixed places)

/-! ### The double nearest to a quotient -/

/-- The largest `e` with `2 ^ e ≤ numerator / denominator`, for positive terms. -/
def binaryMagnitude (numerator denominator : Nat) : Int :=
  let estimate : Int := (numerator.log2 : Int) - denominator.log2
  if denominator * Nat.pow 2 estimate.toNat ≤ numerator * Nat.pow 2 (-estimate).toNat then
    estimate
  else estimate - 1

/-- The bits of the double nearest to a quotient, ties going to the even
significand; `none` when the quotient is beyond the largest finite double.

The significand is rounded in units of the last place, which is the place 52
below the leading bit but never below `2 ^ (-1074)`.  A significand that rounds
up to `2 ^ 53` carries into the exponent field by itself. -/
def quotientBits (numerator : Int) (denominator : Nat) : Option UInt64 :=
  if numerator = 0 then some 0 else
    let size := numerator.natAbs
    let place := binaryMagnitude size denominator - 52
    -- Among the smallest doubles the last place stays where it is.
    let unit := if place < -1074 then -1074 else place
    let significand :=
      roundHalfEven (size * Nat.pow 2 (-unit).toNat) (denominator * Nat.pow 2 unit.toNat)
    let magnitude := (unit + 1074).toNat * hiddenBit + significand
    if 2047 * hiddenBit ≤ magnitude then none
    else some (UInt64.ofNat ((if numerator < 0 then signBit else 0) + magnitude))

/-- The double nearest to an integer, unless the integer is beyond the largest
one. -/
def ofInt? (value : Int) : Option Float := (quotientBits value 1).map Float.ofBits

end Chip8.Number
