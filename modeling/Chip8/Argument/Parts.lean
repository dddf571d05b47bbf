import Chip8.Argument
import Chip8.Failure
import Chip8.Text.Letter

/-!
# Parts of arguments

Where an operation goes through the parts of an argument one after another, a list
has its items for parts, a text its letters and a table the names of its entries.
Anything else has no parts.

A part may also be asked for by itself: an item or a letter by its place, an entry by
its name.
-/

namespace Chip8.Argument

/-- The letters of a text, each as a text. -/
def ofLetters (value : String) : List Argument :=
  (Text.letters value).map fun letter => .text (Text.ofLetters [letter])

/-- The parts of an argument. -/
def parts : Argument → Except Failure (List Argument)
  | list items => .ok items
  | text value => .ok (ofLetters value)
  | table entries => .ok (entries.map fun entry => .text entry.1)
  | nothing | truth _ | integer _ | real _ => .error .notParts

/-- The two parts of a pair. -/
def pair (argument : Argument) : Except Failure (Argument × Argument) := do
  match ← argument.parts with
  | [first, second] => return (first, second)
  | _ => throw .notPair

/-- The part in some place, of an argument whose parts are numbered.  The entries of a
table are not: they have names. -/
def part (argument : Argument) (place : Nat) : Except Failure Argument := do
  match argument with
  | table _ => throw .entryMissing
  | _ =>
      match (← argument.parts)[place]? with
      | some part => return part
      | none => throw .itemMissing

/-- The name that an argument stands for, under which something is asked for. -/
def toName : Argument → Except Failure String
  | text name => .ok name
  | nothing | truth _ | integer _ | real _ | list _ | table _ => .error .nameNotText

/-- The value under a name among some entries. -/
def lookUp? (entries : List (String × Argument)) (name : String) : Option Argument :=
  (entries.find? fun entry => entry.1 == name).map Prod.snd

/-- The entry of a table under a name, which has to be there. -/
def entry (argument : Argument) (name : String) : Except Failure Argument :=
  match argument with
  | table entries =>
      match lookUp? entries name with
      | some value => .ok value
      | none => .error .entryMissing
  | _ => .error .notParts

/-- The entry of a table under a name, if it is there. -/
def entry? (argument : Argument) (name : String) : Except Failure (Option Argument) :=
  match argument with
  | table entries => .ok (lookUp? entries name)
  | _ => .error .notTable

end Chip8.Argument
