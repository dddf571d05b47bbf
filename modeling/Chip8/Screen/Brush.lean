import Chip8.Screen.Packed
import Chip8.Screen.Scheme

/-!
# Brushes

A brush says how to colour the pixels of one kind, lit or dark.  Most brushes use
one colour throughout, but a host may hand over one colour for every pixel of the
kind; the pixels are then numbered row by row.  A colour may also be given by a
single part, which stands for all three.
-/

namespace Chip8

/-- The colours for the pixels of one kind, by their number. -/
abbrev Brush := Nat → Color

namespace Brush

/-- The brush that uses one colour throughout. -/
def solid (color : Color) : Brush := fun _ => color

/-- A table of bytes: so many rows of so many columns, of which there are three or
one. -/
structure Swatch where
  rows : Nat
  columns : Nat
  bytes : Array UInt8

/-- The byte for a pixel and one of the three parts of its colour.  A single row
serves all pixels and a single column all parts. -/
def Swatch.part (swatch : Swatch) (pixel part : Nat) : UInt8 :=
  let row := if swatch.rows = 1 then 0 else pixel
  let column := if swatch.columns = 1 then 0 else part
  swatch.bytes.getD (row * swatch.columns + column) 0

/-- The brush of a table of bytes. -/
def ofSwatch (swatch : Swatch) : Brush :=
  fun pixel => ⟨swatch.part pixel 0, swatch.part pixel 1, swatch.part pixel 2⟩

/-- The rows and columns of an array of some shape.  Outer dimensions of a single
entry do not matter. -/
def layout? : List Nat → Option (Nat × Nat)
  | [] => some (1, 1)
  | [columns] => some (1, columns)
  | [rows, columns] => some (rows, columns)
  | outer :: rest => if outer = 1 then layout? rest else none

end Brush

/-- The brush that an argument stands for, where so many pixels are of the kind. -/
def Argument.toBrush (argument : Argument) (pixels : Nat) : Except Failure Brush := do
  let (shape, bytes) ← argument.toByteArray
  match Brush.layout? shape with
  | none => .error .colorsMismatched
  | some (rows, columns) =>
      if (rows = 1 ∨ rows = pixels) ∧ (columns = 1 ∨ columns = 3) then
        .ok (Brush.ofSwatch ⟨rows, columns, bytes.toArray⟩)
      else .error .colorsMismatched

/-- The argument that stands for a colour. -/
def Argument.ofColor (color : Color) : Argument :=
  .list ([color.red, color.green, color.blue].map fun part => .integer part.toNat)

end Chip8
