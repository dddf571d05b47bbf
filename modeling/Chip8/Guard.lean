import Chip8.Fault
import Chip8.Instruction
import Chip8.State

/-!
# Guards

An instruction is refused before anything has changed if it would leave memory
or the call stack.  A call needs a free slot, a return needs an open call, and
the instructions that reach memory through the index need every byte of their
span; a refusal names the last byte of the span.
-/

namespace Chip8

open Layout

namespace Guard

/-- How many bytes an operation reaches through the index. -/
def span (op : Op) (x n : Int) : Int :=
  match op with
  | .drw => n
  | .ldB => 3
  | .ldMemVx | .ldVxMem => x + 1
  | _ => 0

/-- Refuse a span that ends past the end of memory.  An empty span reaches
nothing. -/
def checkSpan (state : State) (length : Int) : Except Fault Unit :=
  let last := state.index.toNat + length - 1
  if 0 < length ∧ (memorySize : Int) ≤ last then
    .error (.memoryOutOfBounds last state.pc.toNat)
  else .ok ()

/-- Refuse a call without a free slot and a return without an open call. -/
def checkStack (state : State) (op : Op) : Except Fault Unit :=
  if op = .call ∧ stackSize ≤ state.stack.pointer.toNat then
    .error (.stackOverflow state.pc.toNat)
  else if op = .ret ∧ state.stack.pointer.toNat = 0 then
    .error (.stackUnderflow state.pc.toNat)
  else .ok ()

/-- Refuse an operation that would leave memory or the call stack. -/
def check (state : State) (op : Op) (x n : Int) : Except Fault Unit := do
  checkStack state op
  checkSpan state (span op x n)

end Guard

/-- Refuse an instruction that would leave memory or the call stack. -/
def State.check (state : State) (instruction : Instruction) : Except Fault Unit :=
  Guard.check state instruction.op instruction.x.val instruction.n.val

end Chip8
