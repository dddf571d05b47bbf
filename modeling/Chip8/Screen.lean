import Chip8.Layout

/-!
# The packed screen

The screen has 32 rows of 64 pixels.  Eight pixels share a byte, the leftmost in
the highest bit; eight bytes make a row, and rows follow one another from top to
bottom.  `Screen.pixel` reads a single pixel, `Screen.rows` takes the whole
screen apart.
-/

namespace Chip8

open Layout

/-- The packed screen. -/
abbrev Screen := Vector UInt8 screenSize

namespace Screen

/-- A dark screen. -/
def dark : Screen := Vector.replicate screenSize 0

/-- The place of the byte in a row and column of bytes. -/
def place (row : Fin screenHeight) (column : Fin bytesPerRow) : Fin screenSize :=
  ⟨row.val * bytesPerRow + column.val, by
    have := row.isLt
    have := column.isLt
    simp only [screenHeight, bytesPerRow, screenSize] at *
    omega⟩

/-- The column of bytes that holds a column of pixels. -/
def byteColumn (column : Fin screenWidth) : Fin bytesPerRow :=
  ⟨column.val / 8, by
    have := column.isLt
    simp only [screenWidth, bytesPerRow] at *
    omega⟩

/-- Whether a pixel is lit. -/
def pixel (screen : Screen) (row : Fin screenHeight) (column : Fin screenWidth) : Bool :=
  screen[place row (byteColumn column)].toNat.testBit (7 - column.val % 8)

/-- The eight pixels of a byte from left to right. -/
def bits (byte : UInt8) : List Bool := (List.range 8).map fun i => byte.toNat.testBit (7 - i)

/-- The pixels of a row from left to right. -/
def row (screen : Screen) (row : Fin screenHeight) : List Bool :=
  (List.finRange bytesPerRow).flatMap fun column => bits screen[place row column]

/-- The pixels of the screen, row by row. -/
def rows (screen : Screen) : List (List Bool) := (List.finRange screenHeight).map screen.row

@[simp] theorem length_rows (screen : Screen) : screen.rows.length = screenHeight := by
  simp [rows]

/-! ### Text -/

/-- The lines of a text that shows one cell for each pixel. -/
def lines (screen : Screen) (lit dark : String) : List String :=
  screen.rows.map fun row => String.join (row.map fun pixel => if pixel then lit else dark)

/-- The screen as a text of 32 lines. -/
def text (screen : Screen) (lit dark : String) : String :=
  "\n".intercalate (screen.lines lit dark)

end Screen

end Chip8
