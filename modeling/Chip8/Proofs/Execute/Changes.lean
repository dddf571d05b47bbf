import Chip8.Execute

/-!
# What an instruction changes

One equation for each field of the state says what an instruction makes of it; a field
that an equation does not mention an operation for stays as it was under that operation.

Memory and the call stack change through few instructions only.  Storing digits or
registers writes memory, a call pushes and a return pops; every other instruction
leaves both alone.  The writes to memory are listed as they are issued, those past the
end included (`memoryWrites`).  The index, the timers, the screen and the random stream
have a few instructions each, and no instruction touches the keypad or the tone.

Registers and the program counter, which most instructions change, have files of their
own.
-/

namespace Chip8

namespace Execute

/-- The writes to memory that an instruction issues, those past the end included. -/
def memoryWrites (beyond : Overrun) (instruction : Instruction) (state : State) :
    List (Nat × UInt8) :=
  match instruction.op with
  | .ldB => Transfer.digitWrites state.index.toNat (state.register instruction.x)
  | .ldMemVx =>
      Transfer.storeWrites (readByte beyond state) state.index.toNat instruction.x
        state.registers
  | _ => []

/-- The writes to the slots of the call stack that an instruction issues. -/
def slotWrites (instruction : Instruction) (state : State) : List (Nat × UInt16) :=
  match instruction.op with
  | .call => [(state.stack.pointer.toNat, state.pc + 2)]
  | .ret => [((state.stack.pointer - 1).toNat, 0)]
  | _ => []

variable (beyond : Overrun) (instruction : Instruction) (state : State)

/-- Waiting for a key changes at most a register and the program counter. -/
theorem awaitKey_eq (x : Nibble) :
    awaitKey x state =
      { state with registers := (awaitKey x state).registers, pc := (awaitKey x state).pc } := by
  unfold awaitKey
  split <;> rfl

/-- Drawing changes the screen, a register and the program counter. -/
theorem drawSprite_eq (x y height : Nibble) :
    drawSprite beyond x y height state =
      { state with
        screen := Sprite.paint (spriteStrokes beyond x y height state) state.screen
        registers := (drawSprite beyond x y height state).registers
        pc := state.pc + 2 } := by
  simp only [drawSprite, State.setFlag, State.setRegister, State.advance]
  rfl

/-! ### Memory and the call stack -/

/-- An instruction does nothing to memory but its writes. -/
theorem memory_execute :
    (execute beyond instruction state).memory =
      Bank.writeAll state.memory (memoryWrites beyond instruction state) := by
  simp only [execute, memoryWrites]
  cases instruction.op
  case ldVxK => rw [awaitKey_eq, Bank.writeAll_nil]
  case drw => rw [drawSprite_eq, Bank.writeAll_nil]
  all_goals rfl

/-- Only calls and returns change the call stack. -/
theorem stack_execute :
    (execute beyond instruction state).stack =
      match instruction.op with
      | .call => state.stack.push (state.pc + 2)
      | .ret => (state.stack.pop beyond.stack).1
      | _ => state.stack := by
  simp only [execute]
  cases instruction.op
  case ldVxK => rw [awaitKey_eq]
  case drw => rw [drawSprite_eq]
  all_goals rfl

/-- An instruction does nothing to the slots of the call stack but its writes. -/
theorem slots_execute :
    (execute beyond instruction state).stack.slots =
      Bank.writeAll state.stack.slots (slotWrites instruction state) := by
  rw [stack_execute, slotWrites]
  cases instruction.op <;> rfl

/-! ### The other fields -/

theorem index_execute :
    (execute beyond instruction state).index =
      match instruction.op with
      | .ldI => instruction.nnn
      | .addI => state.index + (state.register instruction.x).toUInt16
      | .ldF => glyphAddress (state.register instruction.x)
      | _ => state.index := by
  simp only [execute]
  cases instruction.op
  case ldVxK => rw [awaitKey_eq]
  case drw => rw [drawSprite_eq]
  all_goals rfl

theorem screen_execute :
    (execute beyond instruction state).screen =
      match instruction.op with
      | .cls => .dark
      | .drw =>
          Sprite.paint (spriteStrokes beyond instruction.x instruction.y instruction.n state)
            state.screen
      | _ => state.screen := by
  simp only [execute]
  cases instruction.op
  case ldVxK => rw [awaitKey_eq]
  case drw => rw [drawSprite_eq]
  all_goals rfl

theorem random_execute :
    (execute beyond instruction state).random =
      match instruction.op with
      | .rnd => Random.keep state.random
      | _ => state.random := by
  simp only [execute]
  cases instruction.op
  case ldVxK => rw [awaitKey_eq]
  case drw => rw [drawSprite_eq]
  all_goals rfl

theorem delayTimer_execute :
    (execute beyond instruction state).delayTimer =
      if instruction.op = .ldDtVx then state.register instruction.x else state.delayTimer := by
  simp only [execute]
  cases instruction.op
  case ldVxK => rw [awaitKey_eq]; rfl
  case drw => rw [drawSprite_eq]; rfl
  all_goals rfl

theorem soundTimer_execute :
    (execute beyond instruction state).soundTimer =
      if instruction.op = .ldStVx then state.register instruction.x else state.soundTimer := by
  simp only [execute]
  cases instruction.op
  case ldVxK => rw [awaitKey_eq]; rfl
  case drw => rw [drawSprite_eq]; rfl
  all_goals rfl

/-- No instruction holds or lets go of a key. -/
@[simp] theorem keypad_execute : (execute beyond instruction state).keypad = state.keypad := by
  simp only [execute]
  cases instruction.op
  case ldVxK => rw [awaitKey_eq]
  case drw => rw [drawSprite_eq]
  all_goals rfl

/-- No instruction turns the buzzer on or off. -/
@[simp] theorem tone_execute : (execute beyond instruction state).tone = state.tone := by
  simp only [execute]
  cases instruction.op
  case ldVxK => rw [awaitKey_eq]
  case drw => rw [drawSprite_eq]
  all_goals rfl

end Execute

end Chip8
