import Chip8.Proofs.Frame.Spending
import Chip8.Proofs.Machine.Calls
import Chip8.Proofs.Tally.Counts

/-!
# Accounts

A machine counts the frames that it finishes and the instructions that it carries out, and
its state keeps a budget.  An observer that adds up counts the same things once more, from
what it is told.  The accounts agree after any calls of a host: with each other, and with
the instructions that were really carried out, those of frames that failed among them.

Counts are exact.  Times are kept in 32 bits within a frame and in the budget, so that
they agree modulo 2 ^ 32.

## Strategy

`Accounts` says what agrees with the instructions carried out so far.  It is balanced at
the start, loading leaves it alone (`Accounts.reloaded`), and a frame adds its
instructions to both sides (`Accounts.frame`).
-/

namespace Chip8

open Layout

/-! ### Documented costs -/

/-- What each operation costs, in microseconds, row by row as the instruction set is
documented. -/
def Op.documentedCost : Op → Int
  | sys => 100
  | cls => 109
  | ret => 105
  | jp => 105
  | call => 105
  | seImm | sneImm | seReg | sneReg => 61
  | ldImm => 27
  | addImm => 45
  | ldReg => 27
  | or | and | xor => 200
  | addReg => 45
  | sub => 200
  | shr => 200
  | subn => 200
  | shl => 200
  | ldI => 55
  | jpV0 => 105
  | rnd => 164
  | drw => 22734
  | skp | sknp => 73
  | ldVxDt => 27
  | ldVxK => 200
  | ldDtVx | ldStVx => 45
  | addI => 86
  | ldF => 91
  | ldB => 927
  | ldMemVx | ldVxMem => 605

/-- What is charged for an operation is what its documentation says. -/
theorem Op.toInt_cost (op : Op) : op.cost.toInt = op.documentedCost := by
  cases op <;> rfl

/-! ### What sums are told about a frame -/

namespace State

variable (state : State) (keypad : UInt16) (sums : Metrics)

theorem tally_reports :
    ((state.reports keypad).foldl Metrics.record sums).tally =
      sums.tally.merge (state.runFrame keypad).2.opCounts := by
  rw [reports]
  cases (state.beginFrame keypad).walk.fault <;> rfl

theorem elapsed_reports :
    ((state.reports keypad).foldl Metrics.record sums).elapsed =
      sums.elapsed + (state.runFrame keypad).2.elapsed.toInt := by
  rw [reports]
  cases (state.beginFrame keypad).walk.fault <;> rfl

theorem length_frames_reports :
    ((state.reports keypad).foldl Metrics.record sums).frames.length =
      sums.frames.length +
        if (state.beginFrame keypad).walk.fault = none then 1 else 0 := by
  rw [reports]
  cases (state.beginFrame keypad).walk.fault with
  | none => simp [Metrics.record]
  | some fault => rfl

theorem length_faults_reports :
    ((state.reports keypad).foldl Metrics.record sums).faults.length =
      sums.faults.length +
        if (state.beginFrame keypad).walk.fault.isSome then 1 else 0 := by
  rw [reports]
  cases (state.beginFrame keypad).walk.fault with
  | none => rfl
  | some fault => simp [Metrics.record]

end State

/-- Weighing a single operation counts the instructions that have it. -/
theorem sum_only (strides : List Stride) (op : Op) :
    (strides.map fun stride => Tally.only op stride.instruction.op).sum =
      strides.countP fun stride => stride.instruction.op = op := by
  induction strides with
  | nil => rfl
  | cons stride strides ih =>
      rw [List.map_cons, List.sum_cons, ih, List.countP_cons, Tally.only]
      by_cases hop : stride.instruction.op = op
      · simp [hop, Int.add_comm]
      · simp [hop]

/-! ### Balance -/

/-- What an observer has added up agrees with what the machine counts, with the
instructions that were carried out, and with the number of frames that failed. -/
structure Accounts (machine : Machine) (sums : Metrics) (strides : List Stride)
    (failed : Nat) : Prop where
  frames : sums.frames.length = machine.frames
  faults : sums.faults.length = failed
  instructions : machine.instructions = strides.length
  count : ∀ op, sums.tally.count op = strides.countP fun stride => stride.instruction.op = op
  weigh : ∀ weight, Tally.weigh weight sums.tally =
    (strides.map fun stride => weight stride.instruction.op).sum
  elapsed : sums.elapsed ≡ spent strides [ZMOD 2 ^ 32]
  budget : machine.state.budget.toInt ≡
    frameBudget * ((machine.frames : Int) + failed) - sums.elapsed [ZMOD 2 ^ 32]

namespace Accounts

variable {machine : Machine} {sums : Metrics} {strides : List Stride} {failed : Nat}

theorem reloaded (h : Accounts machine sums strides failed) {after : Machine}
    (hreloaded : Machine.Reloaded machine after) : Accounts after sums strides failed := by
  have hbudget : after.state.budget = machine.state.budget := by rw [hreloaded.state]
  refine ⟨?_, h.faults, ?_, h.count, h.weigh, h.elapsed, ?_⟩
  · rw [hreloaded.frames, h.frames]
  · rw [hreloaded.instructions, h.instructions]
  · rw [hbudget, hreloaded.frames]
    exact h.budget

/-- A frame adds its instructions on both sides, whether or not a fault stops it. -/
theorem frame (hsteady : machine.Steady) (h : Accounts machine sums strides failed)
    (keypad : UInt16) :
    let walk := (machine.state.beginFrame keypad).walk
    Accounts (machine.runMask keypad).1
      ((machine.state.reports keypad).foldl Metrics.record sums) (strides ++ walk.strides)
      (failed + if walk.fault.isSome then 1 else 0) := by
  intro walk
  refine ⟨?_, ?_, ?_, ?_, ?_, ?_, ?_⟩
  · rw [State.length_frames_reports, hsteady.frames_runMask, h.frames]
  · rw [State.length_faults_reports, h.faults]
  · rw [hsteady.instructions_runMask, h.instructions, List.length_append, Int.natCast_add]
  · intro op
    rw [State.tally_reports, Tally.count_merge, State.weigh_opCounts_runFrame, sum_only,
      h.count, List.countP_append, Int.natCast_add]
  · intro weight
    rw [State.tally_reports, Tally.weigh_merge, State.weigh_opCounts_runFrame, h.weigh,
      List.map_append, List.sum_append]
  · rw [State.elapsed_reports, spent_append]
    exact h.elapsed.add (State.elapsed_runFrame_modEq _ _)
  · set elapsed := (machine.state.runFrame keypad).2.elapsed.toInt with helapsed
    -- One frame more is granted, whether it is finished or fails.
    have hgranted : ((if walk.fault = none then 1 else 0 : Nat) : Int) +
        (if walk.fault.isSome then 1 else 0 : Nat) = 1 := by
      cases walk.fault <;> rfl
    rw [hsteady.state_runMask, hsteady.frames_runMask, State.elapsed_reports, Int.natCast_add,
      Int.natCast_add]
    calc walk.last.budget.toInt
        ≡ machine.state.budget.toInt + (frameBudget - elapsed) [ZMOD 2 ^ 32] := by
          rw [← Int.add_sub_assoc]
          exact State.budget_last_walk_modEq _ _
      _ ≡ frameBudget * ((machine.frames : Int) + failed) - sums.elapsed +
            (frameBudget - elapsed) [ZMOD 2 ^ 32] := h.budget.add_right _
      _ = frameBudget * ((machine.frames : Int) + failed + 1) - (sums.elapsed + elapsed) := by
          ring
      _ = _ := by
          rw [← hgranted]
          ring

/-- Balanced accounts stay so, whatever a host calls for. -/
theorem answer (hsteady : machine.Steady) {place : Nat} (hsums : machine.sumsAt place = some sums)
    (h : Accounts machine sums strides failed) (call : Call) :
    let exchange : Exchange := ⟨machine, call⟩
    ∃ after, (machine.answer call).1.sumsAt place = some after ∧
      Accounts (machine.answer call).1 after (strides ++ exchange.strides)
        (failed + if exchange.faulted then 1 else 0) := by
  intro exchange
  rw [Exchange.faulted]
  rcases hsteady.answer_cases call with ⟨hreloaded, hstrides, hfault⟩ |
    ⟨keypad, hanswer, hstrides, hfault⟩
  · refine ⟨sums, ?_, ?_⟩
    · rw [hreloaded.sums, hsums]
    · rw [hstrides, hfault, List.append_nil]
      exact h.reloaded hreloaded
  · rw [hanswer, hstrides, hfault]
    refine ⟨_, ?_, h.frame hsteady keypad⟩
    rw [hsteady.sumsAt_runMask, hsums, Option.map_some]

theorem opening (seed : UInt64) (logger : Console.Logger) (observers : List Observer)
    (clock : Argument) :
    Accounts (.fresh (.ofSeed seed) logger observers clock) .empty [] 0 :=
  ⟨rfl, rfl, rfl, fun _ => rfl, fun _ => rfl, rfl, rfl⟩

/-- Accounts that are opened with a machine are balanced after any calls. -/
theorem run {start : Machine} (hsteady : start.Steady) {place : Nat}
    (hsums : start.sumsAt place = some sums) (h : Accounts start sums [] 0)
    (calls : List Call) :
    ∃ after, (start.run calls).sumsAt place = some after ∧
      Accounts (start.run calls) after ((start.exchanges calls).flatMap Exchange.strides)
        ((start.exchanges calls).countP Exchange.faulted) := by
  -- The invariant: what the exchanges so far contributed is what the sums show.
  let balanced (past : List Exchange) (machine : Machine) : Prop :=
    ∃ after, machine.sumsAt place = some after ∧
      Accounts machine after (past.flatMap Exchange.strides) (past.countP Exchange.faulted)
  have hanswer : ∀ past (machine : Machine) call, machine.Steady → balanced past machine →
      balanced (past ++ [⟨machine, call⟩]) (machine.answer call).1 := by
    rintro past machine call hsteady ⟨before, hbefore, accounts⟩
    obtain ⟨after, hafter, haccounts⟩ := accounts.answer hsteady hbefore call
    refine ⟨after, hafter, ?_⟩
    simpa [List.countP_cons] using haccounts
  have hopening : balanced [] start := ⟨sums, hsums, h⟩
  exact hsteady.run_induction hanswer calls hopening

end Accounts

/-- The accounts of a machine and of an observer that adds up from the start agree after any
calls of a host, loads and refusals and frames that failed among them, as long as nothing
that is told or logged to fails.

As many frames are summed up as the machine counts, and as many faults as there were
frames that failed.  The instructions summed up, the sum of the counts of all operations
and the number that the machine counts are all the number of instructions that were
carried out, and each operation has its share.  Modulo 2 ^ 32 the time summed up is what
the counted operations cost by their documentation, and the budget is what all frames granted,
less that time. -/
theorem accounts_balance {logger : Console.Logger} {early late : List Observer}
    (hlogger : logger.Steady) (hearly : ∀ observer ∈ early, observer.Steady)
    (hlate : ∀ observer ∈ late, observer.Steady) (seed : UInt64) (now : Float)
    (calls : List Call) :
    let start := Machine.fresh (.ofSeed seed) logger (early ++ .metrics .empty :: late) (.real now)
    let machine := start.run calls
    let exchanges := start.exchanges calls
    let strides := exchanges.flatMap Exchange.strides
    ∃ sums, machine.observers[early.length]? = some (.metrics sums) ∧
      sums.statistics.frames = machine.frames ∧
      sums.statistics.faults = exchanges.countP Exchange.faulted ∧
      sums.statistics.instructions = machine.instructions ∧
      (sums.statistics.ops.map Prod.snd).sum = machine.instructions ∧
      machine.instructions = strides.length ∧
      (∀ op, sums.tally.count op = strides.countP fun stride => stride.instruction.op = op) ∧
      sums.statistics.elapsed ≡
        (sums.statistics.ops.map fun entry => entry.1.documentedCost * entry.2).sum
          [ZMOD 2 ^ 32] ∧
      machine.state.budget.toInt ≡
        16666 * ((sums.statistics.frames : Int) + sums.statistics.faults) -
          sums.statistics.elapsed [ZMOD 2 ^ 32] := by
  intro start machine exchanges strides
  have hsteady : start.Steady :=
    Machine.steady_fresh_metrics hlogger hearly hlate (.ofSeed seed) .empty now
  have hsums : start.sumsAt early.length = some .empty := by
    simp [start, Machine.fresh, Machine.sumsAt]
  obtain ⟨sums, hfound, accounts⟩ :=
    (Accounts.opening seed logger _ _).run hsteady hsums calls
  have htotal : sums.tally.total = strides.length := by
    rw [← Tally.weigh_one, accounts.weigh]
    simp [strides, exchanges]
  have hinstructions := accounts.instructions
  refine ⟨sums, (Machine.sumsAt_eq_some_iff _ _).mp hfound, accounts.frames, accounts.faults,
    htotal.trans hinstructions.symm, ?_, hinstructions, accounts.count, ?_, ?_⟩
  · have hranked := Tally.weigh_ranking (fun _ => 1) sums.tally
    rw [Tally.weigh_one, Tally.weigh_one, Tally.total_eq_sum] at hranked
    exact hranked.trans (htotal.trans hinstructions.symm)
  · have hranked := Tally.weigh_ranking (fun op => op.cost.toInt) sums.tally
    have hops : (sums.statistics.ops.map fun entry => entry.1.cost.toInt * entry.2).sum =
        spent strides := hranked.trans (accounts.weigh fun op => op.cost.toInt)
    simp only [← Op.toInt_cost]
    rw [hops]
    exact accounts.elapsed
  · have hbudget := accounts.budget
    rw [← accounts.frames, ← accounts.faults] at hbudget
    exact hbudget

/-- What is summed up of a program that draws twice and then fails, and of calls in between that
are refused, beside a listener of the host's own. -/
theorem accounts_balance_retries :
    let listener : Listener :=
      ⟨[], fun past moment => ⟨toString past.length, moment.core, none⟩⟩
    let start := Machine.fresh (.ofSeed 0) plainConsole
      [.passive, .metrics .empty, .host listener] (.real 0)
    let machine := start.run spriteCalls
    let strides := (start.exchanges spriteCalls).flatMap Exchange.strides
    (plainConsole.Steady ∧ Observer.passive.Steady ∧ (Observer.host listener).Steady) ∧
      ∃ sums, machine.observers[1]? = some (.metrics sums) ∧
        sums.statistics.frames = 2 ∧ machine.frames = 2 ∧
        sums.statistics.faults = 1 ∧ (start.exchanges spriteCalls).countP Exchange.faulted = 1 ∧
        sums.statistics.instructions = 3 ∧ machine.instructions = 3 ∧ strides.length = 3 ∧
        sums.tally.count .drw = 2 ∧ sums.tally.count .ldImm = 1 ∧
        sums.statistics.elapsed = 27 * 1 + 22734 * 2 ∧
        machine.state.budget.toInt = 16666 * 3 - 45495 := by
  intro listener start machine strides
  have hlistener : (Observer.host listener).Steady :=
    Observer.steady_host (fun _ _ => rfl) fun _ _ => rfl
  have hearly : ∀ observer ∈ [Observer.passive], observer.Steady :=
    List.forall_mem_singleton.mpr Observer.steady_passive
  have hlate : ∀ observer ∈ [Observer.host listener], observer.Steady :=
    List.forall_mem_singleton.mpr hlistener
  obtain ⟨sums, hfound, hframes, hfaults, hinstructions, -, hcarried, -⟩ :=
    accounts_balance steady_plainConsole hearly hlate 0 0 spriteCalls
  have hsteady : start.Steady :=
    Machine.steady_fresh_metrics steady_plainConsole hearly hlate _ .empty 0
  obtain ⟨-, hbudget⟩ := Machine.reports_spriteCalls hsteady rfl rfl rfl
  have hsums := Machine.sums_spriteCalls hsteady rfl rfl rfl rfl hfound
  rw [hsums] at hframes hfaults hinstructions
  refine ⟨⟨steady_plainConsole, Observer.steady_passive, hlistener⟩, sums, hfound, ?_,
    hframes.symm, ?_, hfaults.symm, ?_, hinstructions.symm, ?_, ?_, ?_, ?_, hbudget⟩
  · rw [hsums]
    rfl
  · rw [hsums]
    rfl
  · rw [hsums]
    rfl
  · exact Int.ofNat.inj (hcarried.symm.trans hinstructions.symm)
  · rw [hsums]
    rfl
  · rw [hsums]
    rfl
  · rw [hsums]
    rfl

end Chip8
