import Chip8.Quantity
import Chip8.Failure

/-!
# Places of a ranking

A host may ask for the first places of a ranking by number, or for all of them by
naming none.  Of the numbers with a fraction only the one that equals one is
understood.
-/

namespace Chip8.Argument

/-- How many places of a ranking an argument asks for, where no number asks for
all of them. -/
def toPlaces : Argument → Except Failure (Option Nat)
  | nothing => .ok none
  | truth value => .ok (some (if value then 1 else 0))
  | integer value => .ok (some value.toNat)
  | real value =>
    if Quantity.equal (.real value) (.whole 1) then .ok (some 1) else .error .notNumber
  | text _ | list _ | table _ => .error .notNumber

end Chip8.Argument
