import Chip8.Argument
import Chip8.Failure
import Chip8.Screen

/-!
# Cells of a text picture

A host chooses what stands for a lit and for a dark pixel in a text.  Anything
may be chosen for a kind of pixel that the screen does not show; for the others
it has to be a text.
-/

namespace Chip8.Screen

/-- The text that stands for the pixels of one kind, where they may be shown or
not. -/
def cell (choice : Argument) (shown : Bool) : Except Failure String :=
  match choice with
  | .text text => .ok text
  | _ => if shown then .error .cellNotText else .ok ""

/-- The screen as a text in which a host has chosen what stands for a pixel. -/
def textOf (screen : Screen) (lit dark : Argument) : Except Failure String := do
  let pixels := screen.rows.flatten
  return screen.text (← cell lit (pixels.contains true)) (← cell dark (pixels.contains false))

/-- Where both choices are texts, they are the cells. -/
@[simp] theorem textOf_text (screen : Screen) (lit dark : String) :
    screen.textOf (.text lit) (.text dark) = .ok (screen.text lit dark) := rfl

end Chip8.Screen
