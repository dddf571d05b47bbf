import Chip8.Proofs.Execute.Drawing
import Chip8.Proofs.Frame.Simulation
import Chip8.Proofs.Keypad.Held

/-!
# Instructions change what they document

Every instruction is documented with what it changes: the bytes of memory that it may
store to (`MayStore`), the registers that it may assign (`MayAssign`), and for each other
field the few operations that change it.  Whatever the state, and also where the index or
the stack pointer lead past the end, an instruction changes nothing else (`Documented`).

A transfer of registers writes all sixteen lanes and a sprite is always drawn with
fifteen rows.  What keeps them within their bounds is the mask: a masked lane writes back
what was there.

No instruction changes the keypad or the tone.  So what beginning a frame has latched is
what every instruction of the frame sees.
-/

namespace Chip8

open Layout

namespace Execute

/-! ### Bounds -/

/-- The bytes of memory that an instruction may change, by where the index points. -/
def MayStore (instruction : Instruction) (index address : Nat) : Prop :=
  match instruction.op with
  | .ldB => index ≤ address ∧ address ≤ index + 2
  | .ldMemVx => index ≤ address ∧ address ≤ index + instruction.x.val
  | _ => False

/-- The registers that an instruction may change, by which keys are held. -/
def MayAssign (instruction : Instruction) (keypad : UInt16) (i : Fin registerCount) : Prop :=
  match instruction.op with
  | .ldImm | .addImm | .ldReg | .or | .and | .xor | .rnd | .ldVxDt => i = instruction.x
  | .ldVxK => keypad ≠ 0 ∧ i = instruction.x
  | .addReg | .sub | .shr | .subn | .shl => i = instruction.x ∨ i = flagRegister
  | .drw => i = flagRegister
  | .ldVxMem => i.val ≤ instruction.x.val
  | _ => False

/-- Of one state an instruction has made another, changing nothing but what it is
documented to change. -/
structure Documented (instruction : Instruction) (before after : State) : Prop where
  memory : ∀ (address : Nat) (h : address < memorySize),
    after.memory[address] ≠ before.memory[address] →
      MayStore instruction before.index.toNat address
  register : ∀ i, after.register i ≠ before.register i →
    MayAssign instruction before.keypad i
  index : after.index ≠ before.index → instruction.op ∈ [.ldI, .addI, .ldF]
  stack : after.stack ≠ before.stack → instruction.op ∈ [.call, .ret]
  delayTimer : after.delayTimer ≠ before.delayTimer → instruction.op = .ldDtVx
  soundTimer : after.soundTimer ≠ before.soundTimer → instruction.op = .ldStVx
  screen : after.screen ≠ before.screen → instruction.op ∈ [.cls, .drw]
  random : after.random ≠ before.random → instruction.op = .rnd
  keypad : after.keypad = before.keypad
  tone : after.tone = before.tone
  budget : after.budget = before.budget

variable {beyond : Overrun} {instruction : Instruction} {state : State}

/-! ### Memory -/

theorem getElem_memory_execute {address : Nat} (h : address < memorySize)
    (hkept : ¬MayStore instruction state.index.toNat address) :
    (execute beyond instruction state).memory[address] = state.memory[address] := by
  simp only [memory_execute]
  cases hop : instruction.op
  case ldB =>
    simp only [MayStore, hop] at hkept
    simp only [memoryWrites, hop]
    exact Transfer.getElem_writeAll_writes_of_not_mem _ _ _ h (by omega)
  case ldMemVx =>
    simp only [MayStore, hop] at hkept
    simp only [memoryWrites, hop]
    exact getElem_store_of_not_mem beyond state instruction.x h (by omega)
  all_goals simp only [memoryWrites, hop, Bank.writeAll_nil]

/-! ### Registers -/

variable {i : Fin registerCount} {x : Nibble}

theorem register_assign (value : UInt8) :
    (assign x value state).register i = if x = i then value else state.register i := by
  rw [assign, State.register_advance, State.register_setRegister]

theorem register_assignFlagged (result : UInt8 × UInt8) :
    (assignFlagged x result state).register i =
      if flagRegister = i then result.2 else if x = i then result.1 else state.register i := by
  rw [assignFlagged, State.register_advance, State.setFlag, State.register_setRegister,
    State.register_setRegister]

theorem register_awaitKey (h : ¬(state.keypad ≠ 0 ∧ i = x)) :
    (awaitKey x state).register i = state.register i := by
  unfold awaitKey
  split
  case h_1 key hkey =>
    have hheld : state.keypad ≠ 0 := by
      rw [ne_eq, ← Keypad.lowestHeld?_eq_none_iff, hkey]
      simp
    rw [State.register_advance, State.register_setRegister,
      if_neg fun hi => h ⟨hheld, hi.symm⟩]
  case h_2 => rw [State.register_advance]

theorem register_loadRegisters (last : Nibble) :
    (loadRegisters beyond last state).register i =
      if i.val ≤ last.val then readByte beyond state (state.index.toNat + i.val)
      else state.register i :=
  getElem_load _ _ _ _ i.isLt

theorem register_execute (hkept : ¬MayAssign instruction state.keypad i) :
    (execute beyond instruction state).register i = state.register i := by
  unfold MayAssign at hkept
  simp only [execute]
  cases hop : instruction.op <;> simp only [hop] at hkept ⊢
  case ldImm | addImm | ldReg | or | and | xor | ldVxDt =>
    rw [register_assign, if_neg fun hi => hkept hi.symm]
  case rnd =>
    rw [drawByte, register_assign, if_neg fun hi => hkept hi.symm]
    rfl
  case addReg | sub | shr | subn | shl =>
    rw [register_assignFlagged, if_neg fun hi => hkept (Or.inr hi.symm),
      if_neg fun hi => hkept (Or.inl hi.symm)]
  case drw => rw [register_drawSprite, if_neg fun hi => hkept hi.symm]
  case ldVxK => exact register_awaitKey hkept
  case ldVxMem => rw [register_loadRegisters, if_neg hkept]
  all_goals rfl

/-! ### All fields -/

/-- No instruction changes anything that it is not documented to change. -/
theorem documented_execute (beyond : Overrun) (instruction : Instruction) (state : State) :
    Documented instruction state (execute beyond instruction state) where
  memory := by
    intro address h hchanged
    by_contra hkept
    exact hchanged (getElem_memory_execute h hkept)
  register := by
    intro i hchanged
    by_contra hkept
    exact hchanged (register_execute hkept)
  index := by
    rw [index_execute]
    cases instruction.op <;> simp
  stack := by
    rw [stack_execute]
    cases instruction.op <;> simp
  delayTimer := by
    rw [delayTimer_execute]
    simp +contextual
  soundTimer := by
    rw [soundTimer_execute]
    simp +contextual
  screen := by
    rw [screen_execute]
    cases instruction.op <;> simp
  random := by
    rw [random_execute]
    cases instruction.op <;> simp
  keypad := keypad_execute beyond instruction state
  tone := tone_execute beyond instruction state
  budget := budget_execute beyond instruction state

end Execute

/-! ### Frames -/

namespace State

variable {state next : State} {instruction : Instruction}

theorem keypad_step (h : state.step = .ok (next, instruction)) : next.keypad = state.keypad := by
  obtain ⟨_, _, _, _, rfl⟩ := step_eq_ok h
  exact Execute.keypad_execute _ _ _

theorem tone_step (h : state.step = .ok (next, instruction)) : next.tone = state.tone := by
  obtain ⟨_, _, _, _, rfl⟩ := step_eq_ok h
  exact Execute.tone_execute _ _ _

end State

/-- What is held and whether the buzzer sounds is the same before and after any number of
steps. -/
theorem Linked.latches {state last : State} {strides : List Stride}
    (h : Linked state strides last) :
    (∀ stride ∈ strides,
      stride.before.keypad = state.keypad ∧ stride.before.tone = state.tone) ∧
      last.keypad = state.keypad ∧ last.tone = state.tone := by
  obtain ⟨hkeypads, hkeypad⟩ := h.field_eq State.keypad
    fun stride hmem => State.keypad_step (h.step_of_mem hmem)
  obtain ⟨htones, htone⟩ := h.field_eq State.tone
    fun stride hmem => State.tone_step (h.step_of_mem hmem)
  exact ⟨fun stride hmem => ⟨hkeypads stride hmem, htones stride hmem⟩, hkeypad, htone⟩

/-- Every instruction, on every state, changes nothing but what it is documented to
change.  The keys and the tone that beginning a frame latches are what each instruction
sees, however many follow, and what is left of them in the end; the instructions that a
frame carries out are such ones. -/
theorem effects_documented (state : State) :
    (∀ instruction, Execute.Documented instruction state (state.execute instruction)) ∧
    ∀ keypad : UInt16,
      let opened := state.beginFrame keypad
      (∀ strides last, Linked opened strides last →
        (∀ stride ∈ strides,
          stride.before.keypad = keypad ∧ stride.before.tone = (state.soundTimer != 0)) ∧
        last.keypad = keypad ∧ last.tone = (state.soundTimer != 0)) ∧
      Linked opened opened.walk.strides (state.runFrame keypad).1 := by
  refine ⟨fun instruction => Execute.documented_execute _ instruction state, ?_⟩
  intro keypad opened
  refine ⟨fun strides last hlinked => hlinked.latches, ?_⟩
  rw [State.fst_runFrame]
  exact opened.linked_walk

end Chip8
