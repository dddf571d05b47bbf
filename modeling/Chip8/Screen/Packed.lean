import Chip8.Argument.Array
import Chip8.Screen

/-!
# Bytes of a screen handed over by a host

A host may hand over a screen or colours as arrays of bytes.  The shape is looked
at last: an array of another shape than a row of 256 bytes, which is what a screen
takes, is refused only once all its elements have turned out to be bytes.
-/

namespace Chip8

open Layout

/-- The shape and the bytes of the array that an argument stands for. -/
def Argument.toByteArray (argument : Argument) : Except Failure (List Nat × List UInt8) := do
  let (shape, elements) ← argument.toArray 0 255
  return (shape, elements.map UInt8.ofInt)

/-- The screen whose bytes these are. -/
def Screen.ofBytes (bytes : List UInt8) : Except Failure Screen :=
  if h : bytes.length = screenSize then .ok ⟨bytes.toArray, by simpa using h⟩
  else .error (.wrongShape [bytes.length])

/-- The screen that an argument stands for. -/
def Argument.toScreen (argument : Argument) : Except Failure Screen := do
  let (shape, bytes) ← argument.toByteArray
  if shape.length = 1 then Screen.ofBytes bytes else .error (.wrongShape shape)

end Chip8
