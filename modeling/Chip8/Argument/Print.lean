import Chip8.Argument
import Chip8.Number.Shortest
import Chip8.Text.Listing

/-!
# Arguments in print

Some messages repeat what a host handed over.  A text then stands for itself;
inside a listing it is quoted, so that it cannot be taken for anything else.
-/

namespace Chip8.Argument

open Text (quoted bracketed braced)

mutual

/-- An argument as it prints inside a listing. -/
def quote : Argument → String
  | nothing => "None"
  | truth value => if value then "True" else "False"
  | integer value => toString value
  | real value => Number.print value
  | text value => quoted value
  | list items => bracketed (quoteItems items)
  | table entries => braced (quoteEntries entries)

/-- Several arguments as they print inside a listing. -/
def quoteItems : List Argument → List String
  | [] => []
  | item :: rest => quote item :: quoteItems rest

/-- The entries of a table as they print. -/
def quoteEntries : List (String × Argument) → List String
  | [] => []
  | entry :: rest => quoteEntry entry :: quoteEntries rest

/-- A name and its value as they print. -/
def quoteEntry : String × Argument → String
  | (name, value) => quoted name ++ ": " ++ quote value

end

/-- An argument as it prints on its own. -/
def print : Argument → String
  | text value => value
  | argument => quote argument

@[simp] theorem print_integer (value : Int) : (integer value).print = toString value := by
  simp only [print, quote]

end Chip8.Argument
