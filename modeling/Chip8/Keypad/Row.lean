import Chip8.Argument.Array
import Chip8.Keypad

/-!
# Rows of keys

A host may ask at once which of all the keys that a register can name are held.  It
hands over one mask for all of them, in a list of its own or not, or a list with a
mask for each.  A list of any other length does not match the keys, and lists within
lists stand for no row at all.
-/

namespace Chip8

namespace Keypad

/-- The number of keys that a register can name. -/
abbrev rowLength : Nat := 256

/-- Which keys are held, where every key is looked up in a mask of its own. -/
def row (mask : Fin rowLength → UInt16) : List Bool :=
  (List.finRange rowLength).map fun key => isHeld (mask key) (UInt8.ofNat key.val)

end Keypad

/-- The mask for every key of a row that an argument stands for. -/
def Argument.toRowMasks (argument : Argument) :
    Except Failure (Fin Keypad.rowLength → UInt16) := do
  match ← argument.toArray 0 Layout.keypadMask with
  | ([], masks) => return each masks
  | ([count], masks) =>
      if count = 1 ∨ count = Keypad.rowLength then return each masks
      else throw .masksMismatched
  | _ => throw .notSingle
where
  /-- A single mask serves all keys. -/
  each (masks : List Int) (key : Fin Keypad.rowLength) : UInt16 :=
    match masks with
    | [mask] => UInt16.ofInt mask
    | _ => UInt16.ofInt (masks.getD key.val 0)

end Chip8
