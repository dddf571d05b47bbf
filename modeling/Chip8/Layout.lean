/-!
# Sizes, addresses and the font

The numbers that fix the machine's geometry: where the font and the program lie
in memory, how large the screen is, and how much time one frame grants.
-/

namespace Chip8.Layout

/-- Bytes of memory. -/
abbrev memorySize : Nat := 4096

/-- Where programs are loaded and where execution starts. -/
abbrev programStart : Nat := 0x200

/-- The longest program that fits between `programStart` and the end of memory. -/
abbrev maxProgramSize : Nat := memorySize - programStart

/-- The last address from which a two-byte word can be fetched. -/
abbrev maxFetchAddress : Nat := memorySize - 2

/-- Both bytes of a word that can be fetched lie in memory. -/
theorem succ_lt_memorySize {address : Nat} (h : address ≤ maxFetchAddress) :
    address + 1 < memorySize := by
  simp only [maxFetchAddress, memorySize] at *
  omega

/-- How many general registers there are. -/
abbrev registerCount : Nat := 16

/-- The register that receives carries, borrows, shifted bits and collisions. -/
abbrev flagRegister : Fin registerCount := ⟨0xF, by decide⟩

/-- The register that a jump with an offset adds to its address. -/
abbrev baseRegister : Fin registerCount := ⟨0, by decide⟩

/-- How many return addresses the call stack holds. -/
abbrev stackSize : Nat := 16

/-- How many keys the keypad has. -/
abbrev keyCount : Nat := 16

/-- The keypad with every key held. -/
abbrev keypadMask : Nat := 0xFFFF

/-- Pixels in a row of the screen. -/
abbrev screenWidth : Nat := 64

/-- Rows of the screen. -/
abbrev screenHeight : Nat := 32

/-- Bytes in a row of the screen, eight pixels in each. -/
abbrev bytesPerRow : Nat := 8

/-- Bytes of the packed screen. -/
abbrev screenSize : Nat := 256

/-- Rows of the tallest sprite. -/
abbrev maxSpriteHeight : Nat := 15

/-- Where the font lies. -/
abbrev fontStart : Nat := 0x000

/-- Bytes of one glyph. -/
abbrev glyphSize : Nat := 5

/-- Microseconds that one frame grants. -/
abbrev frameBudget : Nat := 16666

/-- The glyphs of the sixteen hexadecimal digits, five rows each, drawn in the
upper half of every byte. -/
def font : List UInt8 :=
  [0xF0, 0x90, 0x90, 0x90, 0xF0,
    0x20, 0x60, 0x20, 0x20, 0x70,
    0xF0, 0x10, 0xF0, 0x80, 0xF0,
    0xF0, 0x10, 0xF0, 0x10, 0xF0,
    0x90, 0x90, 0xF0, 0x10, 0x10,
    0xF0, 0x80, 0xF0, 0x10, 0xF0,
    0xF0, 0x80, 0xF0, 0x90, 0xF0,
    0xF0, 0x10, 0x20, 0x40, 0x40,
    0xF0, 0x90, 0xF0, 0x90, 0xF0,
    0xF0, 0x90, 0xF0, 0x10, 0xF0,
    0xF0, 0x90, 0xF0, 0x90, 0x90,
    0xE0, 0x90, 0xE0, 0x90, 0xE0,
    0xF0, 0x80, 0x80, 0x80, 0xF0,
    0xE0, 0x90, 0x90, 0x90, 0xE0,
    0xF0, 0x80, 0xF0, 0x80, 0xF0,
    0xF0, 0x80, 0xF0, 0x80, 0x80]

end Chip8.Layout
