import Chip8.Argument
import Chip8.Number.Double

/-!
# Quantities

A host may hand over a number as an integer of any size or as a double.
`Quantity` holds either.  Integers are added, subtracted and compared exactly.
As soon as a double takes part in a sum, the integer is rounded to a double
first, which fails beyond the largest one; comparisons are exact even then.
-/

namespace Chip8

/-- A number. -/
inductive Quantity where
  | whole (value : Int)
  | real (value : Float)
  deriving Inhabited

namespace Quantity

/-- The double nearest to a number. -/
def toFloat? : Quantity → Option Float
  | whole value => Number.ofInt? value
  | real value => some value

/-- Work out an operation exactly on integers, and on doubles if one of the
numbers is a double. -/
def combine (exact : Int → Int → Int) (rounded : Float → Float → Float)
    (first second : Quantity) : Option Quantity :=
  match first, second with
  | whole first, whole second => some (whole (exact first second))
  | first, second => do
      let first ← first.toFloat?
      let second ← second.toFloat?
      return real (rounded first second)

/-- The sum of two numbers. -/
def plus : Quantity → Quantity → Option Quantity := combine (· + ·) (· + ·)

/-- The difference of two numbers. -/
def minus : Quantity → Quantity → Option Quantity := combine (· - ·) (· - ·)

/-! ### Comparison -/

/-- A finite number as a quotient. -/
def ratio? : Quantity → Option (Int × Nat)
  | whole value => some (value, 1)
  | real value =>
      if Number.isFinite value then some (Number.Parts.ofFloat value).signedRatio else none

/-- A double that compares with every infinite one as the number does. -/
def standIn : Quantity → Float
  | whole _ => 0
  | real value => value

/-- Whether one number is less than another. -/
def less (first second : Quantity) : Bool :=
  match first.ratio?, second.ratio? with
  | some (a, b), some (c, d) => a * d < c * b
  -- An integer lies between the infinite doubles just as zero does.
  | _, _ => first.standIn < second.standIn

/-- Whether two numbers are equal. -/
def equal (first second : Quantity) : Bool :=
  match first.ratio?, second.ratio? with
  | some (a, b), some (c, d) => a * d == c * b
  | _, _ => first.standIn == second.standIn

@[simp] theorem less_whole (first second : Int) :
    less (whole first) (whole second) = decide (first < second) := by
  simp [less, ratio?]

@[simp] theorem equal_whole (first second : Int) :
    equal (whole first) (whole second) = (first == second) := by
  simp [equal, ratio?]

/-- Whether a number is the double that stands for the result of an operation that
has none. -/
def isUndefined : Quantity → Bool
  | whole _ => false
  | real value => !(value == value)

/-! ### Multiples -/

/-- Whether one double is a multiple of another one that is not zero.  Of the
infinite doubles only zero is a multiple, and nothing infinite is one. -/
def isMultiple (value unit : Float) : Bool :=
  match ratio? (real value), ratio? (real unit) with
  | some (a, b), some (c, d) => a * d % (c * b) == 0
  | some (a, _), none => unit == unit && a == 0
  | none, _ => false

end Quantity

/-- The number that an argument is, if it is one. -/
def Argument.toQuantity? : Argument → Option Quantity
  | truth value => some (.whole (if value then 1 else 0))
  | integer value => some (.whole value)
  | real value => some (.real value)
  | nothing | text _ | list _ | table _ => none

/-- A number as an argument. -/
def Argument.ofQuantity : Quantity → Argument
  | .whole value => integer value
  | .real value => real value

@[simp] theorem Argument.toQuantity?_integer (value : Int) :
    (integer value).toQuantity? = some (.whole value) := rfl

end Chip8
