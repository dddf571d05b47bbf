/-!
# Arguments of no fixed type

A host hands over seeds, keypad masks, programs and screens as values of no
fixed type.  `Argument` holds such a value until the operation that receives it
has decided whether it will do.  The two truth values count as the integers
zero and one.
-/

namespace Chip8

/-- A value a host hands over. -/
inductive Argument where
  | nothing
  | truth (value : Bool)
  | integer (value : Int)
  | real (value : Float)
  | text (value : String)
  | list (items : List Argument)
  | table (entries : List (String × Argument))
  deriving Inhabited

namespace Argument

/-- The integer that an argument is, if it is one. -/
def integer? : Argument → Option Int
  | truth value => some (if value then 1 else 0)
  | integer value => some value
  | nothing | real _ | text _ | list _ | table _ => none

@[simp] theorem integer?_integer (value : Int) : (integer value).integer? = some value := rfl

/-- The name that messages use for the type of an argument. -/
def typeName : Argument → String
  | nothing => "NoneType"
  | truth _ => "bool"
  | integer _ => "int"
  | real _ => "float"
  | text _ => "str"
  | list _ => "list"
  | table _ => "dict"

/-- Whether an argument counts as true.  Nothing, zero and whatever is empty do
not. -/
def isTrue : Argument → Bool
  | nothing => false
  | truth value => value
  | integer value => value != 0
  | real value => value != 0
  | text value => !value.isEmpty
  | list items => !items.isEmpty
  | table entries => !entries.isEmpty

end Argument

end Chip8
