import Chip8.Argument.Arithmetic
import Chip8.Argument.Parts

/-!
# The order of arguments

Numbers are compared by size, texts letter by letter, and lists by the first pair
of items that differ.  Anything else has no order, and comparing it fails.  Two
lists may still be compared when they hold items without an order, as long as
those are the same in both.

No number equals the double that stands for no number, not even itself.  Two items
of lists that are both that double are still taken for the same.
-/

namespace Chip8.Argument

mutual

/-- Whether two items are the same.  The order of the entries of a table does not
matter. -/
def same : Argument → Argument → Bool
  | nothing, nothing => true
  | text first, text second => first == second
  | list first, list second => sameItems first second
  | table first, table second => first.length == second.length && sameEntries first second
  | first, second =>
      match first.toQuantity?, second.toQuantity? with
      | some first, some second =>
          first.equal second || (first.isUndefined && second.isUndefined)
      | _, _ => false

/-- Whether two lists hold the same items. -/
def sameItems : List Argument → List Argument → Bool
  | [], [] => true
  | first :: firsts, second :: seconds => first.same second && sameItems firsts seconds
  | _, _ => false

/-- Whether all entries of one table are found in another one. -/
def sameEntries : List (String × Argument) → List (String × Argument) → Bool
  | [], _ => true
  | entry :: rest, others => sameEntry entry others && sameEntries rest others

/-- Whether an entry is found in a table. -/
def sameEntry : String × Argument → List (String × Argument) → Bool
  | (name, value), others =>
      match lookUp? others name with
      | some other => value.same other
      | none => false

end

mutual

/-- Whether one argument is less than another one. -/
def less : Argument → Argument → Except Failure Bool
  | text first, text second => .ok (Text.precedes first second)
  | list first, list second => lessItems first second
  | first, second => do return (← first.toQuantity).less (← second.toQuantity)

/-- Whether one list is less than another one, which it is when it ends first. -/
def lessItems : List Argument → List Argument → Except Failure Bool
  | _, [] => .ok false
  | [], _ :: _ => .ok true
  | first :: firsts, second :: seconds =>
      if first.same second then lessItems firsts seconds else first.less second

end

@[simp] theorem less_integer (first second : Int) :
    less (integer first) (integer second) = .ok (decide (first < second)) := by
  simp only [less, toQuantity, toQuantity?_integer]
  exact congrArg Except.ok (Quantity.less_whole first second)

@[simp] theorem same_integer (first second : Int) :
    same (integer first) (integer second) = (first == second) := by
  simp [same, Quantity.isUndefined]

end Chip8.Argument
