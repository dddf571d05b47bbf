import Chip8.Argument.Integer

/-!
# Arrays of numbers handed over by a host

A host may hand over numbers as nested lists.  Such lists form an array only if
they fill a box of at most 64 dimensions, and every element must be a number that
the array has room for.  A value that is no list is an array without dimensions.
-/

namespace Chip8.Argument

mutual

/-- The shape of nested lists, outermost size first; `none` if they fill no
rectangle. -/
def shape? : Argument → Option (List Nat)
  | list items =>
      match sharedShape? items with
      | some inner => some (items.length :: inner)
      | none => none
  | nothing | truth _ | integer _ | real _ | text _ | table _ => some []

/-- The shape that several values have in common; the empty one of no values. -/
def sharedShape? : List Argument → Option (List Nat)
  | [] => some []
  | [item] => item.shape?
  | item :: next :: rest =>
      match item.shape?, sharedShape? (next :: rest) with
      | some shape, some others => if shape = others then some shape else none
      | _, _ => none

end

mutual

/-- The elements of nested lists in order. -/
def elements : Argument → List Argument
  | list items => allElements items
  | nothing => [nothing]
  | truth value => [truth value]
  | integer value => [integer value]
  | real value => [real value]
  | text value => [text value]
  | table entries => [table entries]

/-- The elements of several values in order. -/
def allElements : List Argument → List Argument
  | [] => []
  | item :: rest => item.elements ++ allElements rest

end

/-- The number that an array element can be turned into, in an array that has room
for the numbers from `least` to `most`. -/
def toElement (least most : Int) (argument : Argument) : Except Failure Int := do
  let value ← argument.toWhole
  if least ≤ value ∧ value ≤ most then .ok value else .error .elementOutOfRange

/-- The most dimensions that an array has. -/
abbrev maxDimensions : Nat := 64

/-- The shape and the elements of the array that an argument stands for, where the
array has room for the numbers from `least` to `most`. -/
def toArray (least most : Int) (argument : Argument) :
    Except Failure (List Nat × List Int) := do
  match argument.shape? with
  | none => .error .ragged
  | some shape =>
      if maxDimensions < shape.length then .error .ragged
      else return (shape, ← argument.elements.mapM (toElement least most))

/-- The number that an argument stands for: an array without dimensions. -/
def toSingle (least most : Int) (argument : Argument) : Except Failure Int := do
  match ← argument.toArray least most with
  | ([], [value]) => return value
  | _ => throw .notSingle

end Chip8.Argument
