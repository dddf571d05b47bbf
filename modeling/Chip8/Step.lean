import Chip8.Decode
import Chip8.Execute
import Chip8.Guard

/-!
# Single steps

A step fetches the word at the program counter, decodes it, checks it, carries
it out and charges its cost.  The first of these that fails decides the fault,
and a step that fails has no state: whoever asked for it still holds the old
one.
-/

namespace Chip8

open Layout

namespace State

/-- The word at the program counter. -/
def fetch (state : State) : Except Fault UInt16 :=
  if h : state.pc.toNat ≤ maxFetchAddress then
    have := succ_lt_memorySize h
    let high := state.memory[state.pc.toNat]
    let low := state.memory[state.pc.toNat + 1]
    .ok (high.toUInt16 <<< 8 ||| low.toUInt16)
  else .error (.pcOutOfBounds state.pc.toNat)

/-- Take the cost of an instruction off the budget. -/
def charge (state : State) (cost : Int32) : State :=
  { state with budget := state.budget - cost }

/-- Carry out the instruction at the program counter. -/
def step (state : State) : Except Fault (State × Instruction) := do
  let word ← state.fetch
  let instruction ← decode word.toNat
  state.check instruction
  return ((state.execute instruction).charge instruction.cost, instruction)

end State

end Chip8
