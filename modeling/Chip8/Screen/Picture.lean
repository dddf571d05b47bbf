import Chip8.Argument.Parts
import Chip8.Argument.Print
import Chip8.Quantity
import Chip8.Screen.Brush

/-!
# Pictures of the screen

A picture shows the screen in two colours.  Every pixel becomes a square of equal
cells, so a picture at a given scale has that many times as many rows and
columns as the screen.

`Picture.render` draws with two colours; `Picture.paint` draws with two brushes,
which may colour every pixel differently.  With brushes of a single colour both
draw the same picture.
-/

namespace Chip8

/-- Rows of coloured cells. -/
abbrev Picture := List (List Color)

namespace Palette

/-- The colour of a pixel. -/
def color (palette : Palette) (pixel : Bool) : Color := if pixel then palette.lit else palette.dark

end Palette

namespace Picture

/-- Every item of a list several times over. -/
def stretch {Item : Type} (scale : Nat) (items : List Item) : List Item :=
  items.flatMap fun item => List.replicate scale item

/-- A picture with every cell made a square of cells. -/
def enlarge (scale : Nat) (picture : Picture) : Picture :=
  stretch scale (picture.map (stretch scale))

/-- The screen in two colours, one cell for each pixel. -/
def ofScreen (palette : Palette) (screen : Screen) : Picture :=
  screen.rows.map fun row => row.map palette.color

/-- The screen in two colours, enlarged. -/
def render (scale : Nat) (palette : Palette) (screen : Screen) : Picture :=
  if 1 < scale then enlarge scale (ofScreen palette screen) else ofScreen palette screen

@[simp] theorem length_stretch {Item : Type} (scale : Nat) (items : List Item) :
    (stretch scale items).length = scale * items.length := by
  induction items with
  | nil => simp [stretch]
  | cons item rest ih =>
      simp only [stretch, List.flatMap_cons, List.length_append, List.length_replicate,
        List.length_cons] at *
      rw [ih, Nat.mul_succ, Nat.add_comm]

/-! ### Brushes -/

/-- A row of pixels in colours, where so many lit and so many dark pixels came
before. -/
def paintRow (lit dark : Brush) (before : Nat × Nat) : List Bool → List Color
  | [] => []
  | true :: rest => lit before.1 :: paintRow lit dark (before.1 + 1, before.2) rest
  | false :: rest => dark before.2 :: paintRow lit dark (before.1, before.2 + 1) rest

/-- Rows of pixels in colours, where so many lit and so many dark pixels came
before. -/
def paintRows (lit dark : Brush) (before : Nat × Nat) : List (List Bool) → Picture
  | [] => []
  | row :: rest =>
      paintRow lit dark before row ::
        paintRows lit dark (before.1 + row.count true, before.2 + row.count false) rest

/-- The screen in the colours of two brushes, one cell for each pixel. -/
def paint (lit dark : Brush) (screen : Screen) : Picture := paintRows lit dark (0, 0) screen.rows

/-- A row in two colours. -/
theorem paintRow_solid (palette : Palette) (before : Nat × Nat) (row : List Bool) :
    paintRow (Brush.solid palette.lit) (Brush.solid palette.dark) before row =
      row.map palette.color := by
  induction row generalizing before with
  | nil => rfl
  | cons pixel rest ih => cases pixel <;> simp [paintRow, ih, Brush.solid, Palette.color]

/-- Brushes of a single colour draw the screen in two colours. -/
theorem paint_solid (palette : Palette) (screen : Screen) :
    paint (Brush.solid palette.lit) (Brush.solid palette.dark) screen =
      ofScreen palette screen := by
  have rows (before : Nat × Nat) (pixels : List (List Bool)) :
      paintRows (Brush.solid palette.lit) (Brush.solid palette.dark) before pixels =
        pixels.map fun row => row.map palette.color := by
    induction pixels generalizing before with
    | nil => rfl
    | cons row rest ih => simp only [paintRows, paintRow_solid, ih, List.map_cons]
  exact rows (0, 0) screen.rows

end Picture

/-! ### What a host hands over -/

namespace Argument

/-- The scale that an argument stands for: a number of at least one. -/
def toScale (argument : Argument) : Except Failure Quantity :=
  match argument.toQuantity? with
  | none => .error .notNumber
  | some scale =>
      if scale.less (.whole 1) then .error (.scaleTooSmall argument.print) else .ok scale

/-- The scheme that an argument names.  Values other than a text are looked up
under the text they print as, and found under none. -/
def toScheme : Argument → Except Failure Scheme
  | text name =>
      match Scheme.ofName? name with
      | some scheme => .ok scheme
      | none => .error (.unknownScheme name)
  | list _ | table _ => .error .schemeNotLookedUp
  | argument => .error (.unknownScheme argument.print)

end Argument

/-- The number of cells along a pixel at a given scale, which drops its fraction.
A scale that is no number leaves the picture as it is. -/
def Quantity.toEnlargement (scale : Quantity) : Except Failure Nat := do
  if Quantity.less (.whole 1) scale then
    let count ← (Argument.ofQuantity scale).toWhole
    if count < 0x8000000000000000 then .ok count.toNat else .error .lengthTooLarge
  else .ok 1

namespace Picture

/-- Refuse cells that take more bytes than can be counted in 63 bits, or than there is room
for. -/
def checkBytes (room bytes : Nat) : Except Failure Unit :=
  if 0x8000000000000000 ≤ bytes then .error .pictureUncountable
  else if room < bytes then .error .outOfMemory
  else .ok ()

/-- The bytes of a picture, three for each cell, if it is so many times as wide and as high as
the screen. -/
def byteCount (wider higher : Nat) : Nat :=
  3 * (Layout.screenWidth * wider) * (Layout.screenHeight * higher)

/-- Refuse a scale at which a picture takes too many bytes.  It is stretched downwards first,
and what that makes takes room of its own. -/
def checkSize (room scale : Nat) : Except Failure Unit := do
  checkBytes room (byteCount 1 scale)
  checkBytes room (byteCount scale scale)

/-- What a host says about the colours of a picture. -/
structure Paints where
  lit : Option Argument
  dark : Option Argument
  /-- A scheme whose colours are used in place of the others. -/
  scheme : Option Argument

/-- The colours of lit and of dark pixels, each a list of parts. -/
structure Inks where
  lit : Argument
  dark : Argument

/-- The colours that a host wants.  Those that are not given are those of the classic
scheme.  That the given ones have parts is looked at before the scheme. -/
def Paints.inks (paints : Paints) : Except Failure Inks := do
  let classic := Scheme.classic.palette
  let lit ← (paints.lit.getD (.ofColor classic.lit)).parts
  let dark ← (paints.dark.getD (.ofColor classic.dark)).parts
  match paints.scheme with
  | none => return ⟨.list lit, .list dark⟩
  | some scheme =>
      let palette := (← scheme.toScheme).palette
      return ⟨.ofColor palette.lit, .ofColor palette.dark⟩

/-- The picture that a host asks for, where there is room for so many bytes.  The scale is
looked at first, then the screen, the parts of the colours, and only then how much there is to
enlarge. -/
def request (room : Nat) (screen scale : Argument) (inks : Inks) : Except Failure Picture := do
  let scale ← scale.toScale
  let screen ← screen.toScreen
  let pixels := screen.rows.flatten
  let lit ← inks.lit.toBrush (pixels.count true)
  let dark ← inks.dark.toBrush (pixels.count false)
  let scale ← scale.toEnlargement
  checkSize room scale
  let picture := paint lit dark screen
  return if 1 < scale then enlarge scale picture else picture

end Picture

end Chip8
