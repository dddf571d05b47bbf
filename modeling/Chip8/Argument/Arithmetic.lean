import Chip8.Failure
import Chip8.Quantity

/-!
# Arithmetic on arguments

Arguments are added one after another, from left to right.  The sum starts at the
integer zero, stays an integer as long as only integers come, and is a double
from the first double on, rounded after every step.  The first argument that
cannot be added decides why there is no sum.
-/

namespace Chip8.Argument

/-- The number that an argument has to be. -/
def toQuantity (argument : Argument) : Except Failure Quantity :=
  match argument.toQuantity? with
  | some number => .ok number
  | none => .error .notNumber

/-- A result that is missing because an integer is beyond the largest double. -/
def orInfinite {Result : Type} (result : Option Result) : Except Failure Result :=
  match result with
  | some result => .ok result
  | none => .error .infinite

/-- The sum of two arguments.  Texts and lists are put one after the other. -/
def plus (first second : Argument) : Except Failure Argument :=
  match first, second with
  | text first, text second => .ok (text (first ++ second))
  | list first, list second => .ok (list (first ++ second))
  | first, second => do
      return ofQuantity (← orInfinite ((← first.toQuantity).plus (← second.toQuantity)))

/-- The sum of several arguments. -/
def total (arguments : List Argument) : Except Failure Argument :=
  arguments.foldlM plus (integer 0)

/-! ### Means -/

/-- Whether an argument is the double that stands for no number. -/
def isUndefined (argument : Argument) : Bool := argument.toQuantity?.any Quantity.isUndefined

/-- Whether infinite terms of either sign meet in a sum, so that it stands for no
number, before a term does. -/
def clash (terms : List Argument) : Except Failure Bool :=
  return (← total (terms.takeWhile fun term => !term.isUndefined)).isUndefined

/-- The bits of the mean of several numbers, as a double.  The quotient of integers
is rounded once.  The double that stands for no number has its sign bit set where it
comes out of an operation. -/
def meanBits (arguments : List Argument) : Except Failure UInt64 := do
  match ← (← total arguments).toQuantity with
  | .whole sum => orInfinite (Number.quotientBits sum arguments.length)
  | .real sum =>
      let bits := (sum / Float.ofNat arguments.length).toBits
      return if ← clash arguments then bits ||| UInt64.ofNat Number.signBit else bits

@[simp] theorem plus_integer (first second : Int) :
    plus (integer first) (integer second) = .ok (integer (first + second)) := rfl

/-- The sum of integers is exact. -/
theorem total_integers (values : List Int) :
    total (values.map integer) = .ok (integer (values.foldl (· + ·) 0)) := by
  have step (values : List Int) (start : Int) :
      (values.map integer).foldlM plus (integer start) =
        .ok (integer (values.foldl (· + ·) start)) := by
    induction values generalizing start with
    | nil => rfl
    | cons value rest ih =>
        rw [List.map_cons, List.foldlM_cons, plus_integer]
        exact ih (start + value)
  exact step values 0

end Chip8.Argument
