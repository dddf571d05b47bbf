import Chip8.Instruction
import Chip8.State

/-!
# Sprites

A sprite is up to fifteen rows of eight pixels.  Its rows lie in memory one
after another, and drawing toggles the pixels under its set bits.

On the packed screen a row that does not start at a byte boundary spreads over
two bytes, the second of which may be at the other end of the same screen row.
Drawing is therefore a list of *strokes*, each of which toggles some bits of one
byte: first the left parts of all rows, then the right parts.  Rows past the
sprite's height are drawn too, but as zero, so that what lies in memory past the
sprite does not matter.
-/

namespace Chip8

open Layout

/-- Bits to toggle in one byte of the screen. -/
structure Stroke where
  place : Fin screenSize
  bits : UInt8
  deriving DecidableEq, Repr

namespace Stroke

/-- Toggle the bits of a stroke. -/
def apply (stroke : Stroke) (screen : Screen) : Screen :=
  screen.set stroke.place (screen[stroke.place] ^^^ stroke.bits)

/-- Whether a stroke would erase a lit pixel. -/
def erases (stroke : Stroke) (screen : Screen) : Bool :=
  screen[stroke.place] &&& stroke.bits != 0

end Stroke

namespace Sprite

/-- The rows of the tallest sprite. -/
abbrev Rows := Vector UInt8 maxSpriteHeight

/-- The rows that lie in memory from an address on. -/
def gather (read : Nat → UInt8) (origin : Nat) : Rows :=
  Vector.ofFn fun row => read (origin + row.val)

/-- The rows of a sprite of a given height; rows below it are empty. -/
def crop (height : Nibble) (rows : Rows) : Rows :=
  Vector.ofFn fun row => if row.val < height.val then rows[row] else 0

/-- The part of a row that falls on the byte holding its first pixel. -/
def leftPart (bits : UInt8) (shift : Fin 8) : UInt8 := bits >>> UInt8.ofNat shift.val

/-- The part of a row that spills over into the next byte. -/
def rightPart (bits : UInt8) (shift : Fin 8) : UInt8 :=
  (bits.toUInt16 <<< UInt16.ofNat (8 - shift.val)).toUInt8

/-- The screen row on which a row of a sprite falls, wrapping at the bottom. -/
def screenRow (y : Fin screenHeight) (row : Fin maxSpriteHeight) : Fin screenHeight :=
  ⟨(y.val + row.val) % screenHeight, Nat.mod_lt _ (by decide)⟩

/-- The column of bytes that holds a column of pixels, or one further to the right,
wrapping at the end of the row. -/
def column (x : Fin screenWidth) (further : Nat) : Fin bytesPerRow :=
  ⟨(x.val / 8 + further) % bytesPerRow, Nat.mod_lt _ (by decide)⟩

/-- The strokes of a sprite at a pixel: left parts first, then right parts. -/
def strokes (rows : Rows) (x : Fin screenWidth) (y : Fin screenHeight) : List Stroke :=
  let shift : Fin 8 := ⟨x.val % 8, Nat.mod_lt _ (by decide)⟩
  -- No two of these strokes fall on the same byte of the screen.
  (List.finRange maxSpriteHeight).map
      (fun row => ⟨Screen.place (screenRow y row) (column x 0), leftPart rows[row] shift⟩) ++
    (List.finRange maxSpriteHeight).map
      (fun row => ⟨Screen.place (screenRow y row) (column x 1), rightPart rows[row] shift⟩)

/-- Toggle the bits of several strokes. -/
def paint (strokes : List Stroke) (screen : Screen) : Screen :=
  strokes.foldl (fun screen stroke => stroke.apply screen) screen

/-- Whether any of several strokes would erase a pixel lit beforehand. -/
def collides (strokes : List Stroke) (screen : Screen) : Bool :=
  strokes.any fun stroke => stroke.erases screen

end Sprite

end Chip8
