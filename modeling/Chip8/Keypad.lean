import Chip8.Argument.Parts
import Chip8.Argument.Print
import Chip8.Layout

/-!
# The keypad

The held keys are the set bits of a mask of sixteen bits.
-/

namespace Chip8

namespace Keypad

open Layout (keyCount keypadMask)

/-- Whether a key is held.  Only keys zero to fifteen can be. -/
def isHeld (keypad : UInt16) (key : UInt8) : Bool :=
  key < 16 && (keypad >>> (key.toUInt16 &&& 0xF)) &&& 1 == 1

/-- The lowest held key. -/
def lowestHeld? (keypad : UInt16) : Option (Fin keyCount) :=
  (List.finRange keyCount).find? fun key => keypad >>> UInt16.ofNat key.val &&& 1 == 1

end Keypad

/-- What a host hands over for a mask: the integer that it is, if it is one, the name of its
type, and how it prints. -/
structure Mask where
  integer? : Option Int
  typeName : String
  shown : String

namespace Mask

/-- An integer as a mask. -/
def integer (value : Int) : Mask := ⟨some value, "int", toString value⟩

/-- The held keys, where the mask is an integer of sixteen bits. -/
def toKeypad (mask : Mask) : Except Failure UInt16 :=
  match mask.integer? with
  | none => .error (.maskNotInteger mask.typeName)
  | some value =>
      if 0 ≤ value ∧ value ≤ Layout.keypadMask then .ok (UInt16.ofNat value.toNat)
      else .error (.maskOutOfRange mask.shown)

end Mask

/-- An argument handed over for a mask. -/
def Argument.toMask (argument : Argument) : Mask :=
  ⟨argument.integer?, argument.typeName, argument.quote⟩

/-- The mask for a frame with a given number.  Nothing holds no keys, and several
masks are used in turn. -/
def Argument.maskAt (masks : Argument) (frame : Nat) : Except Failure Mask :=
  match masks with
  | .nothing => .ok (.integer 0)
  | .list items => inTurn items
  | .text masks => inTurn (ofLetters masks)
  | .table [] => .error .noMasks
  -- The masks of a table would be looked up by number, but its entries have names.
  | .table _ => .error .entryMissing
  | .truth _ | .integer _ | .real _ => .error .noLength
where
  /-- The item for the frame, from the start again once all were used. -/
  inTurn (items : List Argument) : Except Failure Mask :=
    match items[frame % items.length]? with
    | some item => .ok item.toMask
    | none => .error .noMasks

end Chip8
