import Mathlib.Algebra.Group.Nat.Defs
import Chip8.Frame
import Chip8.Guard

/-!
# The two guards agree

A single step checks an instruction and stops at the first check that fails.  A
frame works out all checks of a word, in signed numbers of 32 bits, and lets the
earliest failure win by walking over them backwards.

For a word that was fetched and has an operation the two come to the same
(`check_eq_readBack`): the verdict of the frame, read back as a fault, is what the
check of the instruction says, with the same kind of fault and the same
addresses.  The numbers of 32 bits never wrap, because the index and the program
counter have 16 bits and a span at most 16 bytes.
-/

namespace Chip8

open Layout

namespace Frame

/-! ### Numbers of 16 bits in 32 -/

/-- A word of 16 bits keeps its value as a signed number of 32 bits. -/
theorem toInt_widen (word : UInt16) : word.toUInt32.toInt32.toInt = word.toNat := by
  have hlt := word.toNat_lt
  change word.toUInt32.toBitVec.toInt = word.toNat
  rw [BitVec.toInt_eq_toNat_bmod]
  exact Int.bmod_eq_of_le (by simp) (by simp; omega)

theorem toInt_ofNat {n : Nat} (h : n < 2 ^ 31) : (Int32.ofNat n).toInt = n :=
  Int32.toInt_ofNat_of_lt h

/-- The span of a word with an operation is the span that the guard checks. -/
theorem toInt_span (op : Op) (operands : Operands) :
    (span (some op) operands).toInt = Guard.span op operands.x.val operands.n.val := by
  have hx := operands.x.isLt
  have hn := operands.n.isLt
  have hxValue : (Int32.ofNat operands.x.val).toInt = operands.x.val := toInt_ofNat (by omega)
  have hnValue : (Int32.ofNat operands.n.val).toInt = operands.n.val := toInt_ofNat (by omega)
  have hsum : (Int32.ofNat operands.x.val + 1).toInt = operands.x.val + 1 := by
    rw [Int32.toInt_add, hxValue, Int32.toInt_one]
    exact Int.bmod_eq_of_le (by omega) (by omega)
  unfold span Guard.span
  cases op
  case drw => simpa using hnValue
  case ldMemVx => simpa using hsum
  case ldVxMem => simpa using hsum
  all_goals rfl

end Frame

namespace Guard

/-- No operation reaches more than sixteen bytes. -/
theorem span_bounds (op : Op) (x n : Nibble) :
    0 ≤ span op x.val n.val ∧ span op x.val n.val ≤ 16 := by
  have hx := x.isLt
  have hn := n.isLt
  cases op <;> simp only [span] <;> omega

end Guard

namespace Frame

/-- The last address of a span, in 32 bits. -/
theorem toInt_last (state : State) (op : Op) (operands : Operands) :
    (state.index.toUInt32.toInt32 + span (some op) operands - 1).toInt =
      state.index.toNat + Guard.span op operands.x.val operands.n.val - 1 := by
  have hindex := state.index.toNat_lt
  obtain ⟨hlow, hhigh⟩ := Guard.span_bounds op operands.x operands.n
  have hsum : (state.index.toUInt32.toInt32 + span (some op) operands).toInt =
      state.index.toNat + Guard.span op operands.x.val operands.n.val := by
    rw [Int32.toInt_add, toInt_widen, toInt_span]
    exact Int.bmod_eq_of_le (by omega) (by omega)
  rw [Int32.toInt_sub, hsum, Int32.toInt_one]
  exact Int.bmod_eq_of_le (by omega) (by omega)

/-! ### The verdict -/

@[simp] theorem verdict_nil : verdict [] = (.none, 0) := rfl

/-- The earliest failure wins. -/
@[simp] theorem verdict_cons (check : Check) (later : List Check) :
    verdict (check :: later) =
      if check.failed then (check.stop, check.operand) else verdict later := rfl

theorem pc_gt_iff (state : State) :
    state.pc.toUInt32.toInt32 > Int32.ofNat maxFetchAddress ↔
      maxFetchAddress < state.pc.toNat := by
  rw [gt_iff_lt, Int32.lt_iff_toInt_lt, toInt_widen, toInt_ofNat (by decide)]
  exact Int.ofNat_lt

theorem verdict_pcOutOfBounds {state : State} (h : maxFetchAddress < state.pc.toNat)
    (op : Option Op) (operands : Operands) :
    verdict (checks state op operands) = (.pcOutOfBounds, state.pc.toUInt32.toInt32) := by
  have hfailed := (pc_gt_iff state).mpr h
  simp only [checks, verdict_cons, hfailed, decide_true, if_true]

theorem verdict_invalidOp {state : State} (h : state.pc.toNat ≤ maxFetchAddress)
    (operands : Operands) :
    verdict (checks state none operands) = (.invalidOp, operands.raw.toUInt32.toInt32) := by
  have hpc : ¬state.pc.toUInt32.toInt32 > Int32.ofNat maxFetchAddress := by
    rw [pc_gt_iff]
    omega
  simp only [checks, verdict_cons, hpc, decide_false, decide_true, if_true, Bool.false_eq_true,
    if_false]

/-- The checks of a fetched word with an operation, in the terms of the guard. -/
theorem verdict_decoded {state : State} (h : state.pc.toNat ≤ maxFetchAddress) (op : Op)
    (operands : Operands) :
    verdict (checks state (some op) operands) =
      if op = .call ∧ stackSize ≤ state.stack.pointer.toNat then
        (.stackOverflow, state.pc.toUInt32.toInt32)
      else if op = .ret ∧ state.stack.pointer.toNat = 0 then
        (.stackUnderflow, state.pc.toUInt32.toInt32)
      else if 0 < Guard.span op operands.x.val operands.n.val ∧
          (memorySize : Int) ≤
            state.index.toNat + Guard.span op operands.x.val operands.n.val - 1 then
        (.memoryOutOfBounds, state.index.toUInt32.toInt32 + span (some op) operands - 1)
      else (.none, 0) := by
  have hpc : ¬state.pc.toUInt32.toInt32 > Int32.ofNat maxFetchAddress := by
    rw [pc_gt_iff]
    omega
  have hfull : state.stack.pointer ≥ UInt8.ofNat stackSize ↔
      stackSize ≤ state.stack.pointer.toNat := UInt8.le_iff_toNat_le
  have hempty : state.stack.pointer = 0 ↔ state.stack.pointer.toNat = 0 :=
    UInt8.toNat_inj.symm
  have hspan : span (some op) operands > 0 ↔
      0 < Guard.span op operands.x.val operands.n.val := by
    rw [gt_iff_lt, Int32.lt_iff_toInt_lt, toInt_span]
    rfl
  have hlast : state.index.toUInt32.toInt32 + span (some op) operands - 1 ≥
        Int32.ofNat memorySize ↔
      (memorySize : Int) ≤
        state.index.toNat + Guard.span op operands.x.val operands.n.val - 1 := by
    rw [ge_iff_le, Int32.le_iff_toInt_le, toInt_last, toInt_ofNat (by decide)]
  simp only [checks, verdict_cons, verdict_nil, hpc, hfull, hempty, hspan, hlast, decide_eq_true_eq,
    Option.some.injEq, reduceCtorEq, if_false]

/-- A verdict as the fault that it stands for. -/
def readBack (state : State) (verdict : StopCode × Int32) : Except Fault Unit :=
  match Fault.ofStop verdict.1 state.pc.toNat verdict.2.toInt with
  | none => .ok ()
  | some fault => .error fault

theorem readBack_eq_ok {state : State} {verdict : StopCode × Int32} {done : Unit}
    (h : readBack state verdict = .ok done) : verdict.1 = .none := by
  apply Fault.ofStop_eq_none_iff.mp
  unfold readBack at h
  split at h
  · assumption
  · contradiction

theorem readBack_eq_error {state : State} {verdict : StopCode × Int32} {fault : Fault}
    (h : readBack state verdict = .error fault) :
    Fault.ofStop verdict.1 state.pc.toNat verdict.2.toInt = some fault := by
  unfold readBack at h
  split at h
  · contradiction
  · simp_all

/-- For a fetched word with an operation, the verdict of a frame is what the check of
the instruction says. -/
theorem check_eq_readBack {state : State} (h : state.pc.toNat ≤ maxFetchAddress) (op : Op)
    (operands : Operands) :
    state.check { operands with op } =
      readBack state (verdict (checks state (some op) operands)) := by
  rw [verdict_decoded h]
  simp only [State.check, Guard.check, Guard.checkStack, Guard.checkSpan]
  by_cases hfull : op = .call ∧ stackSize ≤ state.stack.pointer.toNat
  · rw [if_pos hfull, if_pos hfull]
    rfl
  rw [if_neg hfull, if_neg hfull]
  by_cases hempty : op = .ret ∧ state.stack.pointer.toNat = 0
  · rw [if_pos hempty, if_pos hempty]
    rfl
  rw [if_neg hempty, if_neg hempty]
  by_cases hspan : 0 < Guard.span op operands.x.val operands.n.val ∧
      (memorySize : Int) ≤ state.index.toNat + Guard.span op operands.x.val operands.n.val - 1
  · rw [if_pos hspan, if_pos hspan]
    simp only [readBack, Fault.ofStop, toInt_last]
    rfl
  · rw [if_neg hspan, if_neg hspan]
    rfl

theorem verdict_of_stop_none {checks : List Check} (hstop : ∀ check ∈ checks, check.stop ≠ .none)
    (h : (verdict checks).1 = .none) : verdict checks = (.none, 0) := by
  induction checks with
  | nil => rfl
  | cons check later ih =>
      rw [verdict_cons] at h ⊢
      split at h
      · exact absurd h (hstop check List.mem_cons_self)
      · rename_i hpassed
        rw [if_neg hpassed]
        exact ih (fun check hmem => hstop check (List.mem_cons_of_mem _ hmem)) h

theorem stop_ne_none_of_mem_checks {state : State} {op : Option Op} {operands : Operands}
    {check : Check} (h : check ∈ checks state op operands) : check.stop ≠ .none := by
  simp only [checks, List.mem_cons, List.not_mem_nil, or_false] at h
  rcases h with rfl | rfl | rfl | rfl | rfl <;> simp

end Frame

end Chip8
