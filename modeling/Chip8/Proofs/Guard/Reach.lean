import Chip8.Proofs.Decode.Agreement
import Chip8.Proofs.Guard.Verdict

/-!
# What an instruction reaches

`reach` lists the bytes of memory that the meaning of an instruction involves: the
rows of its sprite, its three digits, its registers up to the last one.  Together
with the slot of the call stack that a call fills or a return empties they are all
the places outside registers and screen that it reads or writes on purpose.

`check_eq_ok_iff` says that the guard lets an instruction pass exactly if all of
these exist (`InRange`).  If memory is the reason for a refusal, the fault names
the highest byte that would have been reached (`check_eq_memoryOutOfBounds`).
-/

namespace Chip8

open Layout

/-- The bytes of memory that an instruction reaches through the index. -/
def State.reach (state : State) (instruction : Instruction) : List Nat :=
  match instruction.op with
  | .drw => List.range' state.index.toNat instruction.n.val
  | .ldB => List.range' state.index.toNat 3
  | .ldMemVx | .ldVxMem => List.range' state.index.toNat (instruction.x.val + 1)
  | _ => []

/-- Everything that an instruction reaches exists. -/
structure InRange (state : State) (instruction : Instruction) : Prop where
  memory : ∀ address ∈ state.reach instruction, address < memorySize
  /-- A call finds a free slot. -/
  call : instruction.op = .call → state.stack.pointer.toNat < stackSize
  /-- A return finds an open call. -/
  ret : instruction.op = .ret → 1 ≤ state.stack.pointer.toNat

namespace State

/-- An address past the end of memory is the highest that an instruction reaches. -/
def HighestReached (state : State) (instruction : Instruction) (address : Int) : Prop :=
  ∃ last ∈ state.reach instruction, address = last ∧ memorySize ≤ last ∧
    ∀ other ∈ state.reach instruction, other ≤ last

variable {state : State} {instruction : Instruction}

/-- How many bytes the guard takes an instruction to reach. -/
def spanOf (instruction : Instruction) : Int :=
  Guard.span instruction.op instruction.x.val instruction.n.val

/-- The bytes that an instruction reaches are those of the span that is checked. -/
theorem mem_reach_iff {address : Nat} :
    address ∈ state.reach instruction ↔
      state.index.toNat ≤ address ∧ (address : Int) < state.index.toNat + spanOf instruction := by
  unfold reach spanOf Guard.span
  cases instruction.op <;> simp only [List.mem_range'_1, List.not_mem_nil, false_iff] <;>
    omega

theorem checkStack_eq_ok_iff {op : Op} :
    Guard.checkStack state op = .ok () ↔
      (op = .call → state.stack.pointer.toNat < stackSize) ∧
        (op = .ret → 1 ≤ state.stack.pointer.toNat) := by
  unfold Guard.checkStack
  split
  case isTrue hfull =>
    simp only [reduceCtorEq, false_iff, not_and]
    intro hfree
    exact absurd (hfree hfull.1) (Nat.not_lt.mpr hfull.2)
  case isFalse hfull =>
    split
    case isTrue hempty =>
      simp only [reduceCtorEq, false_iff, not_and]
      intro _ hopen
      have := hopen hempty.1
      omega
    case isFalse hempty =>
      simp only [true_iff]
      constructor
      · intro hcall
        by_contra hpointer
        exact hfull ⟨hcall, Nat.not_lt.mp hpointer⟩
      · intro hret
        by_contra hpointer
        exact hempty ⟨hret, by omega⟩

theorem checkSpan_eq_ok_iff {length : Int} :
    Guard.checkSpan state length = .ok () ↔
      (0 < length → state.index.toNat + length ≤ memorySize) := by
  simp only [Guard.checkSpan]
  split
  case isTrue hpast =>
    simp only [reduceCtorEq, false_iff]
    omega
  case isFalse hpast =>
    simp only [true_iff]
    omega

/-- The guard lets an instruction pass exactly if everything that it reaches
exists. -/
theorem check_eq_ok_iff : state.check instruction = .ok () ↔ InRange state instruction := by
  have hbind : state.check instruction = .ok () ↔
      Guard.checkStack state instruction.op = .ok () ∧
        Guard.checkSpan state (spanOf instruction) = .ok () := by
    unfold State.check Guard.check spanOf
    cases Guard.checkStack state instruction.op with
    | error fault => simp [bind, Except.bind]
    | ok _ => simp [bind, Except.bind]
  rw [hbind, checkStack_eq_ok_iff, checkSpan_eq_ok_iff]
  constructor
  · rintro ⟨⟨hcall, hret⟩, hspan⟩
    refine ⟨?_, hcall, hret⟩
    intro address hmem
    rw [mem_reach_iff] at hmem
    have := hspan (by omega)
    simp only [memorySize] at this ⊢
    omega
  · intro inRange
    refine ⟨⟨inRange.call, inRange.ret⟩, ?_⟩
    intro hpositive
    -- The last byte of the span is one that the instruction reaches.
    obtain ⟨last, hlast⟩ : ∃ last : Nat,
        (last : Int) = state.index.toNat + spanOf instruction - 1 :=
      ⟨(state.index.toNat + spanOf instruction - 1).toNat, by omega⟩
    have hlt := inRange.memory last (mem_reach_iff.mpr (by omega))
    simp only [memorySize] at hlt ⊢
    omega

/-- A refusal for memory's sake names the highest byte that would be reached. -/
theorem check_eq_memoryOutOfBounds {address pc : Int}
    (h : state.check instruction = .error (.memoryOutOfBounds address pc)) :
    pc = state.pc.toNat ∧ state.HighestReached instruction address := by
  have hspan : Guard.checkSpan state (spanOf instruction) =
      .error (.memoryOutOfBounds address pc) := by
    unfold State.check Guard.check Guard.checkStack at h
    split at h
    · simp [bind, Except.bind] at h
    split at h
    · simp [bind, Except.bind] at h
    exact h
  simp only [Guard.checkSpan] at hspan
  split at hspan
  case isFalse => contradiction
  case isTrue hpast =>
    simp only [Except.error.injEq, Fault.memoryOutOfBounds.injEq] at hspan
    obtain ⟨haddress, hpc⟩ := hspan
    simp only [memorySize] at hpast
    refine ⟨hpc.symm, address.toNat, ?_, by omega, by simp only [memorySize]; omega, ?_⟩
    · rw [mem_reach_iff]
      omega
    · intro other hmem
      rw [mem_reach_iff] at hmem
      omega

/-! ### Both guards -/

/-- What a word is decoded to by families is what the table has for it. -/
theorem table_of_decode {word : UInt16} (h : decode word.toNat = .ok instruction) :
    Decode.Table.decode word.toUInt32.toInt32 =
      (some instruction.op, instruction.toOperands) := by
  have hword : word.toUInt32.toInt32.toUInt32.toUInt16 = word := by
    apply UInt16.toBitVec_inj.mp
    simp
  rw [Decode.Table.decode_eq_lookUp] at h
  rw [Decode.Table.decode, hword]
  cases hop : Decode.Table.lookUp word with
  | none =>
      rw [hop] at h
      contradiction
  | some op =>
      rw [hop] at h
      simp only [Except.ok.injEq] at h
      rw [← h]

theorem check_eq_readBack (h : state.pc.toNat ≤ maxFetchAddress) :
    state.check instruction =
      Frame.readBack state (Frame.verdict (Frame.checks state (some instruction.op)
        instruction.toOperands)) :=
  Frame.check_eq_readBack h instruction.op instruction.toOperands

/-- The verdict of a frame lets a fetched instruction pass exactly if everything that
it reaches exists. -/
theorem verdict_eq_none_iff (h : state.pc.toNat ≤ maxFetchAddress) :
    (Frame.verdict (Frame.checks state (some instruction.op) instruction.toOperands)).1 = .none ↔
      InRange state instruction := by
  rw [← check_eq_ok_iff, check_eq_readBack h]
  constructor
  · intro hnone
    rw [Frame.readBack, hnone]
    rfl
  · exact Frame.readBack_eq_ok

/-- A verdict for memory's sake names the highest byte that would be reached. -/
theorem verdict_eq_memoryOutOfBounds (h : state.pc.toNat ≤ maxFetchAddress)
    (hstop : (Frame.verdict (Frame.checks state (some instruction.op)
      instruction.toOperands)).1 = .memoryOutOfBounds) :
    state.HighestReached instruction (Frame.verdict (Frame.checks state (some instruction.op)
      instruction.toOperands)).2.toInt := by
  have hback : state.check instruction = _ := check_eq_readBack h
  rw [Frame.readBack, hstop] at hback
  exact (check_eq_memoryOutOfBounds hback).2

end State

end Chip8
