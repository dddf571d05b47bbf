import Chip8.Proofs.Decode.Agreement
import Chip8.Proofs.Guard.Verdict
import Chip8.Proofs.Walk

/-!
# A frame is a walk

The loop of a frame and a walk are written independently of each other.  The loop
fetches from a clamped address, decodes by table, works out every check and picks
one, and keeps statistics; a walk fetches, decodes and checks one after the other
and stops at the first failure.

`tick_of_ok` and `tick_of_error` compare one round of the loop with one step.  A
round carries out the instruction exactly if the step does; otherwise it leaves
the state alone and records what reads back as the fault of the step.  Then
`run_eq_walk` follows both to the end by induction along the walk.

The statistics count in 32 bits.  That a count is the number of strides needs
that there are less than 2 ^ 31 of them (`State.length_strides_lt`).
-/

namespace Chip8

open Layout

namespace FrameStats

/-! ### Counting strides -/

/-- Count several instructions one after another. -/
def recordAll (stats : FrameStats) (ops : List Op) : FrameStats := ops.foldl record stats

@[simp] theorem recordAll_nil (stats : FrameStats) : stats.recordAll [] = stats := rfl

@[simp] theorem recordAll_cons (stats : FrameStats) (op : Op) (ops : List Op) :
    stats.recordAll (op :: ops) = (stats.record op).recordAll ops := rfl

theorem recordAll_concat (stats : FrameStats) (ops : List Op) (op : Op) :
    stats.recordAll (ops ++ [op]) = (stats.recordAll ops).record op :=
  List.foldl_append

theorem stop_recordAll (stats : FrameStats) (ops : List Op) :
    (stats.recordAll ops).stop = stats.stop := by
  induction ops generalizing stats with
  | nil => rfl
  | cons op ops ih => exact ih (stats.record op)

theorem operand_recordAll (stats : FrameStats) (ops : List Op) :
    (stats.recordAll ops).operand = stats.operand := by
  induction ops generalizing stats with
  | nil => rfl
  | cons op ops ih => exact ih (stats.record op)

theorem count_record (stats : FrameStats) (done op : Op) :
    (stats.record done).count op = if done = op then stats.count op + 1 else stats.count op := by
  simp only [count, record, Fin.getElem_fin, Vector.getElem_set]
  by_cases hop : done = op
  · simp [hop]
  · have hcode : done.code.val ≠ op.code.val := fun h => hop (Op.code_injective (Fin.ext h))
    rw [if_neg hcode, if_neg hop]

theorem instructions_recordAll (stats : FrameStats) (ops : List Op) :
    (stats.recordAll ops).instructions = stats.instructions + Int32.ofNat ops.length := by
  induction ops generalizing stats with
  | nil => simp
  | cons op ops ih =>
      have hone : Int32.ofNat 1 = 1 := rfl
      rw [recordAll_cons, ih, List.length_cons, Int32.ofNat_add, hone,
        Int32.add_comm (Int32.ofNat ops.length), ← Int32.add_assoc]
      rfl

theorem count_recordAll (stats : FrameStats) (ops : List Op) (op : Op) :
    (stats.recordAll ops).count op = stats.count op + Int32.ofNat (ops.count op) := by
  induction ops generalizing stats with
  | nil => simp
  | cons done ops ih =>
      rw [recordAll_cons, ih, count_record, List.count_cons]
      by_cases hop : done = op
      · have hone : Int32.ofNat 1 = 1 := rfl
        simp only [hop, if_true, beq_self_eq_true]
        rw [Int32.ofNat_add, hone, Int32.add_comm (Int32.ofNat (ops.count op)), ← Int32.add_assoc]
      · simp [hop]

theorem elapsed_recordAll (stats : FrameStats) (ops : List Op) :
    (stats.recordAll ops).elapsed = stats.elapsed + (ops.map Op.cost).sum := by
  induction ops generalizing stats with
  | nil => simp
  | cons op ops ih =>
      rw [recordAll_cons, ih, List.map_cons, List.sum_cons, ← Int32.add_assoc]
      rfl

/-- A frame that has carried out few enough instructions counts them exactly. -/
theorem toInt_instructions_recordAll {ops : List Op} (h : ops.length < 2 ^ 31) :
    (empty.recordAll ops).instructions.toInt = ops.length := by
  rw [instructions_recordAll]
  exact (congrArg Int32.toInt (Int32.zero_add _)).trans (Int32.toInt_ofNat_of_lt h)

theorem toInt_count_recordAll {ops : List Op} (h : ops.length < 2 ^ 31) (op : Op) :
    ((empty.recordAll ops).count op).toInt = ops.count op := by
  have hzero : empty.count op = 0 := by
    simp only [count, empty, Fin.getElem_fin, Vector.getElem_replicate]
  have hlt : ops.count op < 2 ^ 31 := Nat.lt_of_le_of_lt List.count_le_length h
  rw [count_recordAll, hzero, Int32.zero_add]
  exact Int32.toInt_ofNat_of_lt hlt

/-- Record why a frame stopped. -/
def halt (stats : FrameStats) (stop : StopCode) (operand : Int32) : FrameStats :=
  { stats with stop, operand }

@[simp] theorem instructions_halt (stats : FrameStats) (stop : StopCode) (operand : Int32) :
    (stats.halt stop operand).instructions = stats.instructions := rfl

@[simp] theorem elapsed_halt (stats : FrameStats) (stop : StopCode) (operand : Int32) :
    (stats.halt stop operand).elapsed = stats.elapsed := rfl

@[simp] theorem count_halt (stats : FrameStats) (stop : StopCode) (operand : Int32) (op : Op) :
    (stats.halt stop operand).count op = stats.count op := rfl

@[simp] theorem stop_halt (stats : FrameStats) (stop : StopCode) (operand : Int32) :
    (stats.halt stop operand).stop = stop := rfl

@[simp] theorem operand_halt (stats : FrameStats) (stop : StopCode) (operand : Int32) :
    (stats.halt stop operand).operand = operand := rfl

end FrameStats

namespace Frame

/-! ### One round and one step -/

theorem toUInt16_join (high low : UInt8) :
    (high.toUInt32.toInt32 <<< 8 ||| low.toUInt32.toInt32).toUInt32.toUInt16 =
      high.toUInt16 <<< 8 ||| low.toUInt16 := by
  apply UInt16.toBitVec_inj.mp
  simp

theorem toInt_join (high low : UInt8) :
    (high.toUInt32.toInt32 <<< 8 ||| low.toUInt32.toInt32).toInt =
      256 * high.toNat + low.toNat := by
  have hhigh := high.toNat_lt
  have hlow := low.toNat_lt
  have hshift : high.toNat <<< 8 % 4294967296 = high.toNat <<< 8 := by
    apply Nat.mod_eq_of_lt
    rw [Nat.shiftLeft_eq]
    omega
  have hvalue : (high.toUInt32.toInt32 <<< 8 ||| low.toUInt32.toInt32).toBitVec.toNat =
      256 * high.toNat + low.toNat := by
    have hbits : (high.toUInt32.toInt32 <<< 8 ||| low.toUInt32.toInt32).toBitVec.toNat =
        high.toNat <<< 8 % 4294967296 ||| low.toNat := by
      simp
    rw [hbits, hshift, ← Nat.shiftLeft_add_eq_or_of_lt hlow, Nat.shiftLeft_eq]
    omega
  rw [← Int32.toInt_toBitVec, BitVec.toInt_eq_toNat_of_lt (by omega), hvalue]
  rfl

/-- Where two bytes are left, the word is made of the two at the program counter. -/
theorem toInt_word {state : State} (hhigh : state.pc.toNat < memorySize)
    (hlow : state.pc.toNat + 1 < memorySize) :
    (word state).toInt =
      256 * state.memory[state.pc.toNat].toNat + state.memory[state.pc.toNat + 1].toNat := by
  have haddress : min state.pc.toNat maxFetchAddress = state.pc.toNat :=
    Nat.min_eq_left (Nat.le_of_lt_succ (Nat.lt_of_succ_lt_succ hlow))
  rw [word, toInt_join]
  simp only [haddress]

theorem fetch_eq_word {state : State} (h : state.pc.toNat ≤ maxFetchAddress) :
    state.fetch = .ok (word state).toUInt32.toUInt16 := by
  have haddress : min state.pc.toNat maxFetchAddress = state.pc.toNat := Nat.min_eq_left h
  rw [State.fetch, dif_pos h, word, toUInt16_join]
  simp only [haddress]

theorem fetch_eq_error {state : State} (h : maxFetchAddress < state.pc.toNat) :
    state.fetch = .error (.pcOutOfBounds state.pc.toNat) :=
  dif_neg (Nat.not_le.mpr h)

theorem step_eq {state : State} (h : state.pc.toNat ≤ maxFetchAddress) :
    state.step =
      match Decode.Table.decode (word state) with
      | (some op, operands) =>
          match readBack state (verdict (checks state (some op) operands)) with
          | .ok _ =>
              .ok ((state.execute { operands with op }).charge op.cost, { operands with op })
          | .error fault => .error fault
      | (none, operands) =>
          .error (.invalidOp (operands.raw.toNat / 256 : Nat)
            (operands.raw.toNat % 256 : Nat)) := by
  simp only [State.step, fetch_eq_word h, Decode.Table.decode, bind, Except.bind,
    Decode.Table.decode_eq_lookUp]
  cases Decode.Table.lookUp (word state).toUInt32.toUInt16 with
  | none => rfl
  | some op =>
      simp only [check_eq_readBack h]
      cases readBack state (verdict (checks state (some op)
          (Decode.Table.operands (word state).toUInt32.toUInt16))) with
      | ok _ => rfl
      | error fault => rfl

theorem pc_le_of_step {state next : State} {instruction : Instruction}
    (h : state.step = .ok (next, instruction)) : state.pc.toNat ≤ maxFetchAddress := by
  obtain ⟨word, hfetch, -⟩ := State.step_eq_ok h
  rcases Nat.lt_or_ge maxFetchAddress state.pc.toNat with hpast | hle
  · rw [fetch_eq_error hpast] at hfetch
    contradiction
  · exact hle

/-- The table has for the word at hand what a step that succeeds has decoded. -/
theorem decode_word_of_step {state next : State} {instruction : Instruction}
    (h : state.step = .ok (next, instruction)) :
    Decode.Table.decode (word state) = (some instruction.op, instruction.toOperands) := by
  rw [step_eq (pc_le_of_step h)] at h
  generalize Decode.Table.decode (word state) = decoded at h ⊢
  obtain ⟨op, operands⟩ := decoded
  cases op with
  | none => contradiction
  | some op =>
      cases hback : readBack state (verdict (checks state (some op) operands)) with
      | error fault =>
          simp only [hback] at h
          contradiction
      | ok _ =>
          simp only [hback, Except.ok.injEq, Prod.mk.injEq] at h
          obtain ⟨-, rfl⟩ := h
          rfl

/-- A round carries out the instruction of a step that succeeds. -/
theorem tick_of_ok {state next : State} {instruction : Instruction} (stats : FrameStats)
    (hoperand : stats.operand = 0) (h : state.step = .ok (next, instruction)) :
    tick state stats = (next, stats.record instruction.op) := by
  rw [step_eq (pc_le_of_step h)] at h
  unfold tick
  generalize Decode.Table.decode (word state) = decoded at h ⊢
  obtain ⟨op, operands⟩ := decoded
  cases op with
  | none => contradiction
  | some op =>
      cases hback : readBack state (verdict (checks state (some op) operands)) with
      | error fault =>
          simp only [hback] at h
          contradiction
      | ok _ =>
          simp only [hback, Except.ok.injEq, Prod.mk.injEq] at h
          obtain ⟨rfl, rfl⟩ := h
          have hverdict := verdict_of_stop_none (fun _ => stop_ne_none_of_mem_checks)
            (readBack_eq_ok hback)
          simp only [hverdict, State.charge, State.budget_execute, FrameStats.record, hoperand]

/-- A round of which the step fails leaves the state alone and records the fault. -/
theorem tick_of_error {state : State} {fault : Fault} (stats : FrameStats)
    (h : state.step = .error fault) :
    ∃ stop operand, tick state stats = (state, stats.halt stop operand) ∧
      Fault.ofStop stop state.pc.toNat operand.toInt = some fault := by
  rcases Nat.lt_or_ge maxFetchAddress state.pc.toNat with hpast | hle
  -- Nothing can be fetched, whatever the clamped fetch finds.
  · have hfault : fault = .pcOutOfBounds state.pc.toNat := by
      simpa [State.step, fetch_eq_error hpast, bind, Except.bind] using h.symm
    refine ⟨.pcOutOfBounds, state.pc.toUInt32.toInt32, ?_, hfault ▸ rfl⟩
    simp only [tick, verdict_pcOutOfBounds hpast, FrameStats.halt]
  rw [step_eq hle] at h
  unfold tick
  generalize Decode.Table.decode (word state) = decoded at h ⊢
  obtain ⟨op, operands⟩ := decoded
  cases op with
  | none =>
      simp only [Except.error.injEq] at h
      refine ⟨.invalidOp, operands.raw.toUInt32.toInt32, ?_, ?_⟩
      · simp only [verdict_invalidOp hle, FrameStats.halt]
      · simp only [Fault.ofStop, toInt_widen, ← h, Int.natCast_ediv, Int.natCast_emod]
        rfl
  | some op =>
      cases hback : readBack state (verdict (checks state (some op) operands)) with
      | ok _ =>
          simp only [hback] at h
          contradiction
      | error found =>
          simp only [hback, Except.error.injEq] at h
          have hfault := readBack_eq_error hback
          refine ⟨_, _, ?_, h ▸ hfault⟩
          dsimp only
          generalize verdict (checks state (some op) operands) = outcome at hfault ⊢
          obtain ⟨stop, operand⟩ := outcome
          cases stop with
          | none => simp at hfault
          | _ => rfl

/-! ### The loop and the walk -/

/-- The loop ends where the walk ends, has counted its strides, and has recorded the
fault that ended it. -/
theorem run_eq_walk (state : State) (stats : FrameStats) (hstop : stats.stop = .none)
    (hoperand : stats.operand = 0) :
    (run state stats).1 = state.walk.last ∧
      ∃ stop operand,
        (run state stats).2 =
          (stats.recordAll (state.walk.strides.map (·.instruction.op))).halt stop operand ∧
        Fault.ofStop stop state.walk.last.pc.toNat operand.toInt = state.walk.fault := by
  induction state using State.walk_induction generalizing stats with
  | spent state hbudget =>
      rw [run_of_not_running fun running => hbudget running.1, State.walk_of_spent hbudget]
      refine ⟨rfl, .none, 0, ?_, rfl⟩
      simp [FrameStats.halt, ← hstop, ← hoperand]
  | refused state fault hbudget hstep =>
      obtain ⟨stop, operand, htick, hfault⟩ := tick_of_error stats hstep
      have hended : ¬Running state (stats.halt stop operand) := by
        intro running
        have hnone : stop = .none := running.2
        simp [hnone] at hfault
      rw [run_of_running ⟨hbudget, hstop⟩, htick, run_of_not_running hended,
        State.walk_of_error hbudget hstep]
      exact ⟨rfl, stop, operand, rfl, hfault⟩
  | taken state next instruction hbudget hstep ih =>
      rw [run_of_running ⟨hbudget, hstop⟩, tick_of_ok stats hoperand hstep,
        State.walk_of_ok hbudget hstep]
      exact ih (stats.record instruction.op) hstop hoperand

end Frame

/-! ### A whole frame -/

namespace State

variable (state : State) (keypad : UInt16)

/-- The operations that a frame carries out, one after another. -/
def frameOps : List Op :=
  (state.beginFrame keypad).walk.strides.map fun stride => stride.instruction.op

theorem length_frameOps_lt : (state.frameOps keypad).length < 2 ^ 31 := by
  rw [frameOps, List.length_map]
  exact (state.beginFrame keypad).length_strides_lt

/-- A frame ends where the walk ends that begins at its start. -/
theorem fst_runFrame : (state.runFrame keypad).1 = (state.beginFrame keypad).walk.last := by
  rw [runFrame]
  exact (Frame.run_eq_walk (state.beginFrame keypad) .empty rfl rfl).1

/-- The statistics of a frame are those of its operations, and why it stopped. -/
theorem snd_runFrame : ∃ stop operand,
    (state.runFrame keypad).2 =
      (FrameStats.empty.recordAll (state.frameOps keypad)).halt stop operand ∧
    Fault.ofStop stop (state.beginFrame keypad).walk.last.pc.toNat operand.toInt =
      (state.beginFrame keypad).walk.fault := by
  rw [runFrame, frameOps]
  exact (Frame.run_eq_walk (state.beginFrame keypad) .empty rfl rfl).2

theorem toInt_instructions_runFrame :
    (state.runFrame keypad).2.instructions.toInt =
      (state.beginFrame keypad).walk.strides.length := by
  obtain ⟨stop, operand, hstats, -⟩ := state.snd_runFrame keypad
  rw [hstats, FrameStats.instructions_halt,
    FrameStats.toInt_instructions_recordAll (state.length_frameOps_lt keypad), frameOps,
    List.length_map]

theorem toInt_count_runFrame (op : Op) :
    ((state.runFrame keypad).2.count op).toInt =
      (state.beginFrame keypad).walk.strides.countP fun stride => stride.instruction.op = op := by
  obtain ⟨stop, operand, hstats, -⟩ := state.snd_runFrame keypad
  rw [hstats, FrameStats.count_halt,
    FrameStats.toInt_count_recordAll (state.length_frameOps_lt keypad), frameOps, List.count,
    List.countP_map]
  rfl

theorem elapsed_runFrame :
    (state.runFrame keypad).2.elapsed =
      ((state.beginFrame keypad).walk.strides.map fun stride => stride.instruction.cost).sum := by
  obtain ⟨stop, operand, hstats, -⟩ := state.snd_runFrame keypad
  rw [hstats, FrameStats.elapsed_halt, FrameStats.elapsed_recordAll, frameOps, List.map_map]
  exact Int32.zero_add _

theorem fault_runFrame :
    (state.runFrame keypad).2.fault? (state.runFrame keypad).1 =
      (state.beginFrame keypad).walk.fault := by
  obtain ⟨stop, operand, hstats, hfault⟩ := state.snd_runFrame keypad
  rw [FrameStats.fault?, hstats, fst_runFrame, FrameStats.stop_halt, FrameStats.operand_halt,
    hfault]

theorem budget_runFrame :
    (state.runFrame keypad).1.budget =
      (state.beginFrame keypad).budget - (state.runFrame keypad).2.elapsed := by
  rw [fst_runFrame, elapsed_runFrame, budget_last_walk]

theorem stop_runFrame_eq_none_iff :
    (state.runFrame keypad).2.stop = .none ↔ (state.beginFrame keypad).walk.fault = none := by
  rw [← fault_runFrame, FrameStats.fault?, Fault.ofStop_eq_none_iff]

/-- Where a frame stopped with a fault, the next step fails with it. -/
theorem step_runFrame {fault : Fault}
    (h : (state.runFrame keypad).2.fault? (state.runFrame keypad).1 = some fault) :
    (state.runFrame keypad).1.step = .error fault := by
  rw [fault_runFrame] at h
  rw [fst_runFrame]
  exact step_last_of_fault h

end State

/-! ### Evaluating frames -/

/-- Run so many rounds at most. -/
def Frame.runFor : Nat → State → FrameStats → State × FrameStats
  | 0, state, stats => (state, stats)
  | rounds + 1, state, stats =>
      if Running state stats then
        runFor rounds (tick state stats).1 (tick state stats).2
      else (state, stats)

/-- A loop that is over after so many rounds comes to what they come to. -/
theorem Frame.run_eq_runFor {rounds : Nat} {state : State} {stats : FrameStats}
    (h : ¬Running (runFor rounds state stats).1 (runFor rounds state stats).2) :
    run state stats = runFor rounds state stats := by
  induction rounds generalizing state stats with
  | zero => exact run_of_not_running h
  | succ rounds ih =>
      rw [runFor] at h ⊢
      by_cases hrunning : Running state stats
      · rw [if_pos hrunning] at h ⊢
        rw [run_of_running hrunning, ih h]
      · rw [if_neg hrunning, run_of_not_running hrunning]

/-- A frame does what single steps do that are taken while budget is left: it ends in
the same state, counts exactly the steps that succeeded, and stops with a fault
exactly if a step failed, with the fault of that step, for which nothing is charged
and nothing changes. -/
theorem runFrame_eq_walk (state : State) (keypad : UInt16) :
    let walk := (state.beginFrame keypad).walk
    let final := (state.runFrame keypad).1
    let stats := (state.runFrame keypad).2
    final = walk.last ∧
      stats.instructions.toInt = walk.strides.length ∧
      (∀ op, (stats.count op).toInt =
        walk.strides.countP fun stride => stride.instruction.op = op) ∧
      stats.elapsed = (walk.strides.map fun stride => stride.instruction.cost).sum ∧
      final.budget = (state.beginFrame keypad).budget - stats.elapsed ∧
      (stats.stop = .none ↔ walk.fault = none) ∧
      stats.fault? final = walk.fault ∧
      (∀ fault, stats.fault? final = some fault → final.step = .error fault) :=
  ⟨state.fst_runFrame keypad, state.toInt_instructions_runFrame keypad,
    state.toInt_count_runFrame keypad, state.elapsed_runFrame keypad,
    state.budget_runFrame keypad, state.stop_runFrame_eq_none_iff keypad,
    state.fault_runFrame keypad, fun _ => state.step_runFrame keypad⟩

end Chip8
