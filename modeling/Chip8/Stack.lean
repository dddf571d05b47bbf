import Chip8.Bank
import Chip8.Layout

/-!
# The call stack

Sixteen slots of return addresses and a pointer to the first free one.  The
pointer is a byte and wraps: popping an empty stack moves it to 255, and neither
operation checks it.  A popped slot is cleared.
-/

namespace Chip8

open Layout (stackSize)

/-- Return addresses, oldest first, and how many there are. -/
structure CallStack where
  slots : Vector UInt16 stackSize
  pointer : UInt8
  deriving DecidableEq, Repr

namespace CallStack

/-- A stack without return addresses. -/
def empty : CallStack := ⟨Vector.replicate stackSize 0, 0⟩

/-- Put an address on top. -/
def push (stack : CallStack) (address : UInt16) : CallStack where
  slots := Bank.write stack.slots stack.pointer.toNat address
  pointer := stack.pointer + 1

/-- Take the top address off, given what lies beyond the last slot. -/
def pop (stack : CallStack) (beyond : Nat → UInt16) : CallStack × UInt16 :=
  let pointer := stack.pointer - 1
  ({ slots := Bank.write stack.slots pointer.toNat 0, pointer },
    Bank.read stack.slots beyond pointer.toNat)

/-- What lies beyond the last slot is the last slot again. -/
def clamp (stack : CallStack) : Nat → UInt16 := fun _ => stack.slots[stackSize - 1]

@[simp] theorem pointer_push (stack : CallStack) (address : UInt16) :
    (stack.push address).pointer = stack.pointer + 1 := rfl

@[simp] theorem pointer_pop (stack : CallStack) (beyond : Nat → UInt16) :
    (stack.pop beyond).1.pointer = stack.pointer - 1 := rfl

/-- Below a full stack, popping gives back the address pushed last. -/
theorem pop_push (stack : CallStack) (address : UInt16) (beyond : Nat → UInt16)
    (h : stack.pointer.toNat < stackSize) :
    ((stack.push address).pop beyond).2 = address := by
  have hpointer : stack.pointer + 1 - 1 = stack.pointer := UInt8.add_sub_cancel ..
  simp only [pop, push, hpointer, Bank.read_of_lt _ _ h, Bank.getElem_write]
  simp

end CallStack

end Chip8
