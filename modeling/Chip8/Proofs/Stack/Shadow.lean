import Chip8.Proofs.Execute.Changes
import Chip8.Proofs.Guard.Reach
import Chip8.Proofs.Session

/-!
# The call stack and the open calls

A history of instructions leaves some calls open: those that no return has matched
yet.  The call stack of the machine is a pointer of eight bits and sixteen slots; it
shadows the open calls (`CallStack.Shadows`) if the pointer counts them, the slots
below it hold their return addresses, oldest first, and all other slots are zero.

## Strategy

The invariant is `Opened`: the stack came about by opening the calls that are still
open one after another, each on top of the stack that was there before it.  It
implies that the stack shadows the calls (`Opened.shadows`), and it says what a
return restores, namely the stack under the latest call.  Popping restores it to the
slot, because the slot that a call fills was zero before (`CallStack.pop_push_eq`).

That the pointer never wraps is due to the guard: a call that is carried out finds a
free slot and a return an open call.  That return addresses never wrap is due to the
fetch, which succeeds up to address `0xFFE` only.
-/

namespace Chip8

open Layout

/-! ### Steps -/

namespace State

variable {state next : State} {instruction : Instruction}

/-- An instruction that is carried out reaches nothing that does not exist. -/
theorem inRange_of_step (h : state.step = .ok (next, instruction)) :
    InRange state instruction := by
  obtain ⟨_, _, _, hcheck, -⟩ := step_eq_ok h
  exact check_eq_ok_iff.mp hcheck

theorem stack_step (h : state.step = .ok (next, instruction)) :
    next.stack =
      match instruction.op with
      | .call => state.stack.push (state.pc + 2)
      | .ret => (state.stack.pop state.clamp.stack).1
      | _ => state.stack := by
  obtain ⟨_, _, _, _, rfl⟩ := step_eq_ok h
  exact Execute.stack_execute _ _ _

end State

/-! ### Open calls -/

/-- The address of the instruction after a call. -/
def Stride.resumption (call : Stride) : Nat := call.before.pc.toNat + 2

/-- Where a word could be fetched, the return address of a call does not wrap. -/
theorem Stride.toNat_returnAddress {call : Stride}
    (hpc : call.before.pc.toNat ≤ maxFetchAddress) :
    (call.before.pc + 2).toNat = call.resumption := by
  simp only [maxFetchAddress, memorySize] at hpc
  rw [UInt16.toNat_add, Stride.resumption]
  change (call.before.pc.toNat + 2) % 2 ^ 16 = call.before.pc.toNat + 2
  omega

/-- The open calls after one more instruction.  A call is one of them from then on, and
a return matches the latest. -/
def settle (calls : List Stride) (stride : Stride) : List Stride :=
  match stride.instruction.op with
  | .call => calls ++ [stride]
  | .ret => calls.dropLast
  | _ => calls

/-- The calls that a history leaves open, oldest first. -/
def openCalls (history : List Stride) : List Stride := history.foldl settle []

theorem openCalls_append_singleton (past : List Stride) (stride : Stride) :
    openCalls (past ++ [stride]) = settle (openCalls past) stride := by
  rw [openCalls, List.foldl_append]
  rfl

/-! ### Shadows -/

namespace CallStack

/-- A stack holds the return addresses of some calls, oldest first, and nothing else. -/
structure Shadows (stack : CallStack) (calls : List Stride) : Prop where
  pointer : stack.pointer.toNat = calls.length
  length_le : calls.length ≤ stackSize
  slots : stack.slots.toList.map UInt16.toNat =
    calls.map Stride.resumption ++ List.replicate (stackSize - calls.length) 0

variable {stack : CallStack} {calls : List Stride}

/-- While a slot is free, the pointer does not wrap. -/
theorem toNat_pointer_push (hfree : stack.pointer.toNat < stackSize) (address : UInt16) :
    (stack.push address).pointer.toNat = stack.pointer.toNat + 1 := by
  simp only [stackSize] at hfree
  rw [pointer_push, UInt8.toNat_add]
  change (stack.pointer.toNat + 1) % 2 ^ 8 = stack.pointer.toNat + 1
  omega

theorem shadows_empty : Shadows empty [] := by
  refine ⟨rfl, Nat.zero_le _, ?_⟩
  simp only [empty, Vector.toList_replicate, List.map_replicate]
  rfl

theorem Shadows.slot_eq_zero (h : Shadows stack calls)
    (hfree : stack.pointer.toNat < stackSize) : stack.slots[stack.pointer.toNat] = 0 := by
  have hslot : (stack.slots.toList.map UInt16.toNat)[stack.pointer.toNat]? = some 0 := by
    have hlength : (calls.map Stride.resumption).length = stack.pointer.toNat := by
      rw [List.length_map, h.pointer]
    have hrest : 0 < stackSize - calls.length := by
      rw [← h.pointer]
      omega
    rw [h.slots, List.getElem?_append_right (Nat.le_of_eq hlength), hlength, Nat.sub_self,
      List.getElem?_replicate, if_pos hrest]
  have hvalue : stack.slots[stack.pointer.toNat].toNat = 0 := by
    simpa [hfree] using hslot
  exact UInt16.toNat_inj.mp hvalue

theorem Shadows.push (h : Shadows stack calls) (hfree : stack.pointer.toNat < stackSize)
    {call : Stride} (hpc : call.before.pc.toNat ≤ maxFetchAddress) :
    Shadows (stack.push (call.before.pc + 2)) (calls ++ [call]) := by
  have hresume := Stride.toNat_returnAddress hpc
  have hlength := h.pointer
  have hroom : calls.length < stackSize := by rwa [← hlength]
  refine ⟨?_, ?_, ?_⟩
  · rw [toNat_pointer_push hfree, List.length_append, List.length_singleton, hlength]
  · rw [List.length_append, List.length_singleton]
    exact hroom
  · have hslots : (stack.push (call.before.pc + 2)).slots =
        stack.slots.set stack.pointer.toNat (call.before.pc + 2) hfree := dif_pos hfree
    have hrest : stackSize - calls.length = stackSize - (calls ++ [call]).length + 1 := by
      rw [List.length_append, List.length_singleton]
      omega
    -- The new address takes the place of the first of the zeros.
    rw [hslots, Vector.toList_set, List.map_set, h.slots, hresume, hlength,
      List.set_append_right _ _ (by simp), hrest, List.replicate_succ]
    simp

/-- Popping what was pushed onto a shadow brings back the whole stack. -/
theorem pop_push_eq (h : Shadows stack calls) (hfree : stack.pointer.toNat < stackSize)
    (address : UInt16) (beyond : Nat → UInt16) :
    (stack.push address).pop beyond = (stack, address) := by
  have hpointer : stack.pointer + 1 - 1 = stack.pointer := UInt8.add_sub_cancel ..
  have hslots : Bank.write (Bank.write stack.slots stack.pointer.toNat address)
      stack.pointer.toNat 0 = stack.slots := by
    -- The slot that is cleared was zero before it was filled.
    ext i hi
    rw [Bank.getElem_write, Bank.getElem_write]
    by_cases hslot : stack.pointer.toNat = i
    · subst hslot
      rw [if_pos rfl, h.slot_eq_zero hfree]
    · rw [if_neg hslot, if_neg hslot]
  have haddress := pop_push stack address beyond hfree
  apply Prod.ext
  · simp only [pop, push, hpointer, hslots]
  · exact haddress

end CallStack

/-! ### The invariant -/

/-- A stack that came about by opening calls one after another, each where a word could
be fetched and a slot was free. -/
inductive Opened : CallStack → List Stride → Prop where
  | none : Opened .empty []
  | call {calls : List Stride} (call : Stride) (h : Opened call.before.stack calls)
      (hfree : call.before.stack.pointer.toNat < stackSize)
      (hpc : call.before.pc.toNat ≤ maxFetchAddress) :
      Opened (call.before.stack.push (call.before.pc + 2)) (calls ++ [call])

namespace Opened

theorem shadows {stack : CallStack} {calls : List Stride} (h : Opened stack calls) :
    stack.Shadows calls := by
  induction h with
  | none => exact CallStack.shadows_empty
  | call _ _ hfree hpc ih => exact ih.push hfree hpc

/-- On top of a stack with an open call lies the return address of the latest one, and
below it what was there before that call. -/
theorem exists_latest {stack : CallStack} {calls : List Stride} (h : Opened stack calls)
    (hopen : 1 ≤ stack.pointer.toNat) :
    ∃ earlier call, calls = earlier ++ [call] ∧ Opened call.before.stack earlier ∧
      call.before.pc.toNat ≤ maxFetchAddress ∧
      ∀ beyond, stack.pop beyond = (call.before.stack, call.before.pc + 2) := by
  cases h with
  | none => contradiction
  | @call earlier call h hfree hpc =>
      exact ⟨earlier, call, rfl, h, hpc, CallStack.pop_push_eq h.shadows hfree _⟩

variable {state next : State} {instruction : Instruction} {calls : List Stride}

/-- A return goes on behind the latest open call and restores the stack from before
it. -/
theorem comeBack (h : Opened state.stack calls) (hstep : state.step = .ok (next, instruction))
    (hret : instruction.op = .ret) :
    ∃ earlier call, calls = earlier ++ [call] ∧ Opened call.before.stack earlier ∧
      next.pc.toNat = call.resumption ∧ next.stack = call.before.stack := by
  have inRange := State.inRange_of_step hstep
  obtain ⟨_, _, _, -, rfl⟩ := State.step_eq_ok hstep
  obtain ⟨earlier, call, hcalls, hearlier, hpc, hpop⟩ := h.exists_latest (inRange.ret hret)
  have hexecute : state.execute instruction =
      { state with stack := call.before.stack, pc := call.before.pc + 2 } := by
    simp only [State.execute, execute, hret, Execute.comeBack, hpop]
  refine ⟨earlier, call, hcalls, hearlier, ?_, ?_⟩
  · rw [hexecute]
    exact Stride.toNat_returnAddress hpc
  · rw [hexecute]
    rfl

theorem step (h : Opened state.stack calls) (hstep : state.step = .ok (next, instruction)) :
    Opened next.stack (settle calls ⟨state, instruction, next⟩) := by
  have hpc := Frame.pc_le_of_step hstep
  -- A return needs the invariant itself; what all others do to the stack is known.
  by_cases hret : instruction.op = .ret
  · obtain ⟨earlier, call, rfl, hearlier, -, hstack⟩ := h.comeBack hstep hret
    rw [hstack]
    simpa only [settle, hret, List.dropLast_concat] using hearlier
  have inRange := State.inRange_of_step hstep
  have hstack := State.stack_step hstep
  by_cases hcall : instruction.op = .call
  · simp only [hcall] at hstack
    rw [hstack]
    have hopened := Opened.call ⟨state, instruction, next⟩ h (inRange.call hcall) hpc
    simpa only [settle, hcall] using hopened
  · have hkept : next.stack = state.stack ∧
        settle calls ⟨state, instruction, next⟩ = calls := by
      unfold settle
      cases hop : instruction.op <;> simp_all
    rw [hkept.1, hkept.2]
    exact h

theorem invariant :
    Session.Invariant fun state past => Opened state.stack (openCalls past) where
  load := by
    intro state next past program h hload
    have hstack : next.stack = state.stack := by rw [State.eq_of_loadProgram hload]
    rw [hstack]
    exact h
  beginFrame := fun _ h => h
  step := by
    intro state next past instruction h hstep
    rw [openCalls_append_singleton]
    exact h.step hstep

end Opened

/-- Throughout every session of a fresh machine the call stack shadows the open calls:
at its end, and before and after every instruction.  Every return that is carried out
goes on behind the latest open call and restores the stack from before that call. -/
theorem stack_shadows_openCalls (seed : UInt64) (requests : List Request) :
    let session := (Session.opening (.ofSeed seed)).run requests
    session.state.stack.Shadows (openCalls session.history) ∧
    ∀ past stride rest, session.history = past ++ stride :: rest →
      stride.before.step = .ok (stride.after, stride.instruction) ∧
      stride.before.stack.Shadows (openCalls past) ∧
      stride.after.stack.Shadows (openCalls (past ++ [stride])) ∧
      (stride.instruction.op = .ret →
        ∃ earlier call, openCalls past = earlier ++ [call] ∧
          stride.after.pc.toNat = call.resumption ∧
          stride.after.stack = call.before.stack) := by
  intro session
  have hthroughout : Session.Throughout
      (fun state past => Opened state.stack (openCalls past)) session :=
    Opened.invariant.throughout Opened.none requests
  refine ⟨hthroughout.last.shadows, ?_⟩
  intro past stride rest hhistory
  have hbefore := hthroughout.before hhistory
  have hstep := hthroughout.step hhistory
  refine ⟨hstep, hbefore.shadows, ?_, ?_⟩
  · exact (Opened.invariant.step hbefore hstep).shadows
  · intro hret
    obtain ⟨earlier, call, hcalls, -, hpc, hstack⟩ := hbefore.comeBack hstep hret
    exact ⟨earlier, call, hcalls, hpc, hstack⟩

end Chip8
