import Chip8.Proofs.Stack.Shadow

/-!
# The program counter

An instruction that is no jump, call or return moves the program counter on: past itself,
past the next instruction too if it skips that one, or not at all while it waits for a
key.  `pc_execute` says for every instruction where it continues.

No sum that is made of the program counter wraps (`Stride.Unwrapped`).  This is due to the
fetch alone, which succeeds up to address `0xFFE` only: whatever the state, an instruction
that is carried out was there, and its own address has twelve bits.

How far the program counter gets is another matter, since a return continues wherever the
call stack says.  The bounds on the program counter and on the return addresses hold
together (`State.Bounded`): a call pushes what comes after an address that could be
fetched, and a return finds what a call has pushed.
-/

namespace Chip8

open Layout

/-! ### Where an instruction continues -/

namespace Execute

/-- Whether an instruction skips the one after it. -/
def skips (instruction : Instruction) (state : State) : Bool :=
  let vx := state.register instruction.x
  let vy := state.register instruction.y
  match instruction.op with
  | .seImm => vx == instruction.nn
  | .sneImm => vx != instruction.nn
  | .seReg => vx == vy
  | .sneReg => vx != vy
  | .skp => Keypad.isHeld state.keypad vx
  | .sknp => !Keypad.isHeld state.keypad vx
  | _ => false

/-- Whether an instruction waits for a key while none is held. -/
def waits (instruction : Instruction) (state : State) : Bool :=
  instruction.op = .ldVxK && (Keypad.lowestHeld? state.keypad).isNone

/-- How many bytes an instruction that does not jump moves on. -/
def distance (instruction : Instruction) (state : State) : UInt16 :=
  if waits instruction state then 0
  else if skips instruction state then 4
  else 2

theorem toNat_distance_le (instruction : Instruction) (state : State) :
    (distance instruction state).toNat ≤ 4 := by
  unfold distance
  split
  · decide
  · split <;> decide

theorem pc_skipIf (condition : Bool) (state : State) :
    (skipIf condition state).pc = state.pc + if condition then 4 else 2 := by
  cases condition <;> rfl

theorem pc_awaitKey (x : Nibble) (state : State) :
    (awaitKey x state).pc =
      state.pc + if (Keypad.lowestHeld? state.keypad).isNone then 0 else 2 := by
  unfold awaitKey
  cases Keypad.lowestHeld? state.keypad <;> rfl

theorem pc_execute (beyond : Overrun) (instruction : Instruction) (state : State) :
    (execute beyond instruction state).pc =
      match instruction.op with
      | .jp | .call => instruction.nnn
      | .ret => (state.stack.pop beyond.stack).2
      | .jpV0 => instruction.nnn + (state.register baseRegister).toUInt16
      | _ => state.pc + distance instruction state := by
  cases hop : instruction.op <;> simp only [execute, distance, waits, skips, hop]
  case seImm | sneImm | seReg | sneReg | skp | sknp => exact pc_skipIf _ _
  case ldVxK => exact pc_awaitKey _ _
  case drw => rw [drawSprite_eq]; rfl
  all_goals rfl

end Execute

/-! ### No sum wraps -/

/-- The sums that an instruction makes of the program counter are what they are without
a limit of sixteen bits. -/
structure Stride.Unwrapped (stride : Stride) : Prop where
  /-- An instruction that does not jump moves on. -/
  onward : stride.instruction.op ∉ [.jp, .call, .ret, .jpV0] →
    stride.after.pc.toNat = stride.before.pc.toNat +
      (Execute.distance stride.instruction stride.before).toNat
  /-- A call remembers the instruction after it. -/
  call : stride.instruction.op = .call →
    ∃ address, stride.after.stack = stride.before.stack.push address ∧
      address.toNat = stride.before.pc.toNat + 2
  /-- A jump with an offset adds a register to its address. -/
  offset : stride.instruction.op = .jpV0 →
    stride.after.pc.toNat = stride.instruction.nnn.toNat +
      (stride.before.register baseRegister).toNat

/-- An instruction was made of two bytes of memory, the ones at the program counter. -/
def Stride.FetchedInPlace (stride : Stride) : Prop :=
  ∃ h : stride.before.pc.toNat + 1 < memorySize,
    (Frame.word stride.before).toInt =
      256 * stride.before.memory[stride.before.pc.toNat].toNat +
        stride.before.memory[stride.before.pc.toNat + 1].toNat ∧
    Decode.Table.decode (Frame.word stride.before) =
      (some stride.instruction.op, stride.instruction.toOperands)

namespace State

variable {state next : State} {instruction : Instruction}

theorem fetchedInPlace_of_step (h : state.step = .ok (next, instruction)) :
    Stride.FetchedInPlace ⟨state, instruction, next⟩ := by
  have hpc := succ_lt_memorySize (Frame.pc_le_of_step h)
  exact ⟨hpc, Frame.toInt_word (Nat.lt_of_succ_lt hpc) hpc, Frame.decode_word_of_step h⟩

theorem pc_step (h : state.step = .ok (next, instruction)) :
    next.pc =
      match instruction.op with
      | .jp | .call => instruction.nnn
      | .ret => (state.stack.pop state.clamp.stack).2
      | .jpV0 => instruction.nnn + (state.register baseRegister).toUInt16
      | _ => state.pc + Execute.distance instruction state := by
  obtain ⟨_, _, _, _, rfl⟩ := step_eq_ok h
  exact Execute.pc_execute _ _ _

/-- The address in an instruction has twelve bits. -/
theorem toNat_nnn_le (h : state.step = .ok (next, instruction)) :
    instruction.nnn.toNat ≤ 0xFFF := by
  have hdecode := Frame.decode_word_of_step h
  rw [Decode.Table.decode, Prod.mk.injEq] at hdecode
  rw [← hdecode.2]
  simp only [Decode.Table.operands]
  rw [UInt16.toNat_and]
  exact Nat.and_le_right

theorem toNat_pc_add_two (h : state.step = .ok (next, instruction)) :
    (state.pc + 2).toNat = state.pc.toNat + 2 :=
  @Stride.toNat_returnAddress ⟨state, instruction, next⟩ (Frame.pc_le_of_step h)

theorem toNat_add_distance (h : state.step = .ok (next, instruction)) :
    (state.pc + Execute.distance instruction state).toNat =
      state.pc.toNat + (Execute.distance instruction state).toNat := by
  have hpc := Frame.pc_le_of_step h
  have hdistance := Execute.toNat_distance_le instruction state
  simp only [maxFetchAddress, memorySize] at hpc
  rw [UInt16.toNat_add]
  omega

theorem toNat_add_offset (h : state.step = .ok (next, instruction)) (offset : UInt8) :
    (instruction.nnn + offset.toUInt16).toNat = instruction.nnn.toNat + offset.toNat := by
  have hnnn := toNat_nnn_le h
  have hoffset := offset.toNat_lt
  rw [UInt16.toNat_add, UInt8.toNat_toUInt16]
  omega

theorem unwrapped_of_step (h : state.step = .ok (next, instruction)) :
    Stride.Unwrapped ⟨state, instruction, next⟩ := by
  have hcontinue := pc_step h
  have hstack := stack_step h
  refine ⟨?_, ?_, ?_⟩
  · intro honward
    rw [← toNat_add_distance h, hcontinue]
    split <;> simp_all
  · intro hcall
    rw [hcall] at hstack
    exact ⟨state.pc + 2, hstack, toNat_pc_add_two h⟩
  · intro hoffset
    rw [hoffset] at hcontinue
    rw [← toNat_add_offset h, hcontinue]

end State

/-! ### The bounds -/

/-- The return addresses on a call stack come after addresses that could be fetched. -/
structure CallStack.Bounded (stack : CallStack) : Prop where
  pointer : stack.pointer.toNat ≤ stackSize
  returns : ∀ (i : Nat) (h : i < stackSize), i < stack.pointer.toNat →
    2 ≤ stack.slots[i].toNat ∧ stack.slots[i].toNat ≤ 0x1000

namespace CallStack.Bounded

variable {stack : CallStack}

theorem push (h : stack.Bounded) (hfree : stack.pointer.toNat < stackSize) {address : UInt16}
    (haddress : 2 ≤ address.toNat ∧ address.toNat ≤ 0x1000) : (stack.push address).Bounded := by
  have hpointer := toNat_pointer_push hfree address
  refine ⟨by omega, ?_⟩
  intro i hi hbelow
  simp only [CallStack.push, Bank.getElem_write]
  split
  case isTrue => exact haddress
  case isFalse hslot => exact h.returns i hi (by omega)

/-- A return finds what a call has pushed. -/
theorem pop (h : stack.Bounded) (hopen : 1 ≤ stack.pointer.toNat) (beyond : Nat → UInt16) :
    (stack.pop beyond).1.Bounded ∧
      2 ≤ (stack.pop beyond).2.toNat ∧ (stack.pop beyond).2.toNat ≤ 0x1000 := by
  have hpointer : (stack.pointer - 1).toNat = stack.pointer.toNat - 1 :=
    UInt8.toNat_sub_of_le _ _ hopen
  have hle := h.pointer
  have htop : (stack.pointer - 1).toNat < stackSize := by omega
  refine ⟨⟨?_, ?_⟩, ?_⟩
  · rw [pointer_pop]
    omega
  · intro i hi hbelow
    rw [pointer_pop] at hbelow
    simp only [CallStack.pop, Bank.getElem_write, if_neg (Nat.ne_of_gt hbelow)]
    exact h.returns i hi (by omega)
  · simp only [CallStack.pop, Bank.read_of_lt _ _ htop]
    exact h.returns _ htop (by omega)

end CallStack.Bounded

/-- The program counter is at most where the farthest jump with an offset leads, and the
return addresses are bounded. -/
structure State.Bounded (state : State) : Prop where
  pc : state.pc.toNat ≤ 0x10FE
  stack : state.stack.Bounded

namespace State.Bounded

variable {state next : State} {instruction : Instruction}

theorem step (h : state.Bounded) (hstep : state.step = .ok (next, instruction)) :
    next.Bounded := by
  have hpc := Frame.pc_le_of_step hstep
  have inRange := inRange_of_step hstep
  simp only [maxFetchAddress, memorySize] at hpc
  refine ⟨?_, ?_⟩
  · -- Only a return goes where the stack says; all others start from what was fetched.
    have hnnn := toNat_nnn_le hstep
    rw [pc_step hstep]
    split
    case h_1 | h_2 => omega
    case h_3 hret =>
      have hreturn := (h.stack.pop (inRange.ret hret) state.clamp.stack).2
      omega
    case h_4 =>
      have hregister := (state.register baseRegister).toNat_lt
      rw [toNat_add_offset hstep]
      omega
    case h_5 =>
      have hdistance := Execute.toNat_distance_le instruction state
      rw [toNat_add_distance hstep]
      omega
  · rw [stack_step hstep]
    split
    case h_1 hcall =>
      have hreturn := toNat_pc_add_two hstep
      exact h.stack.push (inRange.call hcall) (by omega)
    case h_2 hret => exact (h.stack.pop (inRange.ret hret) _).1
    case h_3 => exact h.stack

theorem invariant : Session.Invariant fun state _ => state.Bounded where
  load := by
    intro state next past program h hload
    rw [eq_of_loadProgram hload]
    exact ⟨h.pc, h.stack⟩
  beginFrame := fun _ h => ⟨h.pc, h.stack⟩
  step := fun h hstep => h.step hstep

theorem ofSeed (seed : UInt64) : (State.ofSeed seed).Bounded := by
  refine ⟨Nat.le_of_ble_eq_true rfl, Nat.zero_le _, ?_⟩
  intro i hi hbelow
  exact absurd hbelow (Nat.not_lt_zero i)

end State.Bounded

/-- Throughout every session of a fresh machine the program counter and the return
addresses are bounded: at its end, and before and after every instruction.  No sum that an
instruction makes of the program counter wraps, and every instruction was fetched from
where the program counter was. -/
theorem counter_never_wraps (seed : UInt64) (requests : List Request) :
    let session := (Session.opening (.ofSeed seed)).run requests
    session.state.Bounded ∧
    ∀ stride ∈ session.history,
      stride.before.step = .ok (stride.after, stride.instruction) ∧
      stride.before.Bounded ∧ stride.after.Bounded ∧
      stride.Unwrapped ∧ stride.FetchedInPlace := by
  intro session
  have hthroughout : Session.Throughout (fun state _ => state.Bounded) session :=
    State.Bounded.invariant.throughout (State.Bounded.ofSeed seed) requests
  refine ⟨hthroughout.last, ?_⟩
  intro stride hmem
  obtain ⟨past, rest, hhistory⟩ := List.append_of_mem hmem
  have hstep := hthroughout.step hhistory
  have hbefore := hthroughout.before hhistory
  exact ⟨hstep, hbefore, hbefore.step hstep, State.unwrapped_of_step hstep,
    State.fetchedInPlace_of_step hstep⟩

end Chip8
