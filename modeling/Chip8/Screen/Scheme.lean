/-!
# Colour schemes

A picture of the screen needs two colours, one for lit and one for dark pixels.
A few pairs have names.
-/

namespace Chip8

/-- A colour by its red, green and blue parts. -/
structure Color where
  red : UInt8
  green : UInt8
  blue : UInt8
  deriving DecidableEq, Repr, Inhabited

/-- The two colours of a picture. -/
structure Palette where
  lit : Color
  dark : Color
  deriving DecidableEq, Repr, Inhabited

/-- The named pairs of colours. -/
inductive Scheme where
  | classic
  | amber
  | white
  | blue
  | retro
  deriving DecidableEq, Repr, Inhabited

namespace Scheme

/-- Every scheme once, in the order in which messages list them. -/
def all : List Scheme := [.classic, .amber, .white, .blue, .retro]

/-- The name of a scheme. -/
def name : Scheme → String
  | classic => "classic"
  | amber => "amber"
  | white => "white"
  | blue => "blue"
  | retro => "retro"

/-- The scheme of a name, spelled exactly so. -/
def ofName? (text : String) : Option Scheme := all.find? fun scheme => scheme.name == text

/-- The colours of a scheme. -/
def palette : Scheme → Palette
  | classic => ⟨⟨0, 255, 0⟩, ⟨0, 0, 0⟩⟩
  | amber => ⟨⟨255, 176, 0⟩, ⟨0, 0, 0⟩⟩
  | white => ⟨⟨255, 255, 255⟩, ⟨0, 0, 0⟩⟩
  | blue => ⟨⟨0, 255, 255⟩, ⟨0, 0, 64⟩⟩
  | retro => ⟨⟨255, 255, 0⟩, ⟨64, 0, 64⟩⟩

end Scheme

end Chip8
