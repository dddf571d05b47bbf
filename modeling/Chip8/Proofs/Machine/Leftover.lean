import Mathlib.Data.List.DropRight
import Chip8.Proofs.Keypad.Influence
import Chip8.Proofs.Machine.Halted
import Chip8.Proofs.Route

/-!
# What failed frames leave to spend

A frame that comes through spends all that it was granted, and may leave a debt.  A frame
that a fault stops leaves the rest of its grant in the budget, where the next frame finds
it: the budget carries over.  If the next frame fails too, it leaves its own grant as well.
A program that is loaded over the instruction that failed may then spend all of it in one
frame, which lasts longer than any frame of a machine on which nothing has failed.

So there is no bound that holds for every frame; there is one for every frame that a given
number of failed frames come right before.

## Strategy

What a call leaves in the budget is known from the frame that it ran, if it ran one
(`Machine.state_answer_of_turn`, `Machine.budget_answer_of_no_turn`): what a frame leaves is
at most zero if it came through, and at most its grant more than it found if it failed.  By
induction over the calls, latest last, the budget is at most one grant for every frame that
failed since one came through (`Machine.toInt_budget_run_le`).  No machine has to be steady
for that: who is told of a frame, and whether that fails, does not matter to the state, as long
as no observer changes it.
-/

namespace Chip8

open Layout

/-! ### One frame -/

namespace Turn

variable {turn : Turn}

/-- A grant adds no more than its time, even if it wraps. -/
theorem toInt_budget_opened_le (turn : Turn) :
    turn.opened.budget.toInt ≤ turn.start.budget.toInt + frameBudget := by
  have hlow := turn.start.budget.le_toInt
  refine toInt_le_of_modEq (turn.start.budget_beginFrame_modEq turn.keypad) ?_
  rw [grant_eq]
  omega

/-- A frame reports no more than its instructions cost, even if the sum wraps. -/
theorem toInt_elapsed_le (turn : Turn) : turn.stats.elapsed.toInt ≤ spent turn.strides := by
  have hspent := spent_nonneg turn.strides
  exact toInt_le_of_modEq (turn.start.elapsed_runFrame_modEq turn.keypad) (by omega)

/-- A frame that comes through spends all that it finds and is granted. -/
theorem le_toInt_elapsed (hfine : turn.stats.stop = .none)
    (hleft : 0 ≤ turn.start.budget.toInt)
    (hfits : turn.start.budget.toInt + frameBudget + 22734 ≤ 2 ^ 31) :
    turn.start.budget.toInt + frameBudget ≤ turn.stats.elapsed.toInt := by
  rw [grant_eq] at hfits ⊢
  have hopened : turn.opened.budget.toInt = turn.start.budget.toInt + 16666 :=
    State.toInt_budget_beginFrame (by rw [grant_eq]; omega)
  have hall := toInt_budget_final_le hfine
  rw [toInt_budget_final, hopened] at hall
  have hmost := turn.spent_le (Int.le_of_eq hopened) (by omega)
  have helapsed : turn.stats.elapsed.toInt = spent turn.strides :=
    toInt_eq_of_modEq (turn.start.elapsed_runFrame_modEq turn.keypad) (by omega) (by omega)
  omega

end Turn

/-- How many frames have failed since the last that came through. -/
def failedLast (turns : List Turn) : Nat :=
  (turns.rtakeWhile fun turn => turn.stats.stop ≠ .none).length

@[simp] theorem failedLast_nil : failedLast [] = 0 := rfl

theorem failedLast_concat_of_fine {turn : Turn} (turns : List Turn)
    (h : turn.stats.stop = .none) : failedLast (turns ++ [turn]) = 0 := by
  rw [failedLast, List.rtakeWhile_concat_neg _ _ _ (by simpa using h), List.length_nil]

theorem failedLast_concat_of_failed {turn : Turn} (turns : List Turn)
    (h : turn.stats.stop ≠ .none) : failedLast (turns ++ [turn]) = failedLast turns + 1 := by
  rw [failedLast, List.rtakeWhile_concat_pos _ _ _ (by simpa using h), List.length_append]
  rfl

/-! ### One call -/

namespace Exchange

/-- The frame that a call has run, unless it was refused or is no frame. -/
def turn? (exchange : Exchange) : Option Turn :=
  match exchange.call with
  | .frame mask =>
      match mask.toKeypad with
      | .ok keypad => some ⟨exchange.before.state, keypad⟩
      | .error _ => none
  | .load _ | .loadFile _ | .wait _ => none

end Exchange

namespace Machine

theorem budget_loadedState (state : State) (program : Program) :
    (loadedState state program).budget = state.budget := by
  rw [loadedState]
  cases hload : state.loadProgram program with
  | error failure => rfl
  | ok loaded =>
      dsimp only
      rw [State.eq_of_loadProgram hload]

namespace Harmless

variable {machine : Machine} (h : machine.Harmless) {call : Call}

include h

/-- A call that has run a frame leaves the state in which the frame ends. -/
theorem state_answer_of_turn {turn : Turn}
    (hturn : Exchange.turn? ⟨machine, call⟩ = some turn) :
    turn.start = machine.state ∧ (machine.answer call).1.state = turn.final := by
  cases call with
  | frame mask =>
      cases hmask : mask.toKeypad with
      | error failure => simp [Exchange.turn?, hmask] at hturn
      | ok keypad =>
          simp only [Exchange.turn?, hmask, Option.some.injEq] at hturn
          rw [← hturn]
          refine ⟨rfl, ?_⟩
          rw [machine.answer_of_mask hmask, (h.rests_runMask keypad).state, Turn.final]
  | load program => simp [Exchange.turn?] at hturn
  | loadFile file => simp [Exchange.turn?] at hturn
  | wait now => simp [Exchange.turn?] at hturn

/-- A call that has not leaves the budget as it was. -/
theorem budget_answer_of_no_turn (hturn : Exchange.turn? ⟨machine, call⟩ = none) :
    (machine.answer call).1.state.budget = machine.state.budget := by
  cases call with
  | load program => rw [answer, (h.rests_load program).state, budget_loadedState]
  | loadFile file =>
      rw [answer]
      rcases h.rests_loadFile file with hrests | hrests
      · rw [hrests.state]
      · rw [hrests.state, budget_loadedState]
  | wait now => rfl
  | frame mask =>
      cases hmask : mask.toKeypad with
      | error failure => rw [machine.answer_of_error hmask]
      | ok keypad => simp [Exchange.turn?, hmask] at hturn

end Harmless

/-! ### Many calls -/

/-- The frames that several calls have run. -/
def turns (machine : Machine) (calls : List Call) : List Turn :=
  (machine.exchanges calls).filterMap Exchange.turn?

theorem turns_concat (machine : Machine) (calls : List Call) (call : Call) :
    machine.turns (calls ++ [call]) =
      machine.turns calls ++ (Exchange.turn? ⟨machine.run calls, call⟩).toList := by
  rw [turns, exchanges_concat, List.filterMap_append]
  rfl

/-- The budget of a machine that begins without any is at most what was granted to the
frames that have failed since one came through. -/
theorem toInt_budget_run_le {machine : Machine} (h : machine.Harmless)
    (hzero : machine.state.budget.toInt ≤ 0) (calls : List Call) :
    (machine.run calls).state.budget.toInt ≤ 16666 * failedLast (machine.turns calls) := by
  induction calls using List.reverseRecOn with
  | nil => simpa [turns] using hzero
  | append_singleton calls call ih =>
      rw [run_concat, turns_concat]
      cases hturn : Exchange.turn? ⟨machine.run calls, call⟩ with
      | none =>
          rw [(h.run calls).budget_answer_of_no_turn hturn, Option.toList_none, List.append_nil]
          exact ih
      | some turn =>
          obtain ⟨hstart, hfinal⟩ := (h.run calls).state_answer_of_turn hturn
          rw [hfinal, Option.toList_some]
          by_cases hfine : turn.stats.stop = .none
          · rw [failedLast_concat_of_fine _ hfine]
            have hspent := Turn.toInt_budget_final_le hfine
            omega
          · rw [failedLast_concat_of_failed _ hfine]
            have hopened := turn.toInt_budget_opened_le
            have hspent := spent_nonneg turn.strides
            rw [hstart, grant_eq] at hopened
            rw [turn.toInt_budget_final]
            omega

end Machine

/-- A frame does a bounded amount of work, whatever a host has called for before: at most
what it is granted, what was granted to frames that have failed since one came through,
and the overrun of its last instruction.  It is the grants of frames that have failed that
add up; where none has, a frame spends at most its own grant and the overrun.  The machine may
have any observers that do not change it. -/
theorem frame_time_le (seed : UInt64) (logger : Console.Logger) {observers : List Observer}
    (hobservers : ∀ observer ∈ observers, observer.Harmless) (clock : Argument)
    (calls : List Call) {mask : Mask} {keypad : UInt16} (hmask : mask.toKeypad = .ok keypad) :
    let start := Machine.fresh (.ofSeed seed) logger observers clock
    let machine := start.run calls
    let failed := failedLast (start.turns calls)
    let frame : Turn := ⟨machine.state, keypad⟩
    (machine.runFrame mask).1.state = frame.final ∧
    frame.stats.elapsed.toInt ≤ 16665 + 22734 + 16666 * failed ∧
    frame.stats.elapsed.toInt ≤ spent frame.strides ∧
    (∀ past stride, frame.strides = past ++ [stride] →
      spent past ≤ 16665 + 16666 * failed) ∧
    machine.state.budget.toInt ≤ 16666 * failed := by
  intro start machine failed frame
  have hharmless : start.Harmless := hobservers
  have hzero : start.state.budget.toInt ≤ 0 := Int.le_refl 0
  have hcarried : machine.state.budget.toInt ≤ 16666 * failed :=
    Machine.toInt_budget_run_le hharmless hzero calls
  have hopened : frame.opened.budget.toInt ≤ machine.state.budget.toInt + 16666 :=
    frame.toInt_budget_opened_le
  refine ⟨?_, ?_, frame.toInt_elapsed_le, ?_, hcarried⟩
  · rw [machine.runFrame_of_mask hmask, ((hharmless.run calls).rests_runMask keypad).state,
      Turn.final]
  · have helapsed := frame.toInt_elapsed_le
    have hspent := frame.spent_le (hopened.trans (Int.add_le_add_right hcarried _)) (by omega)
    omega
  · intro past stride hstrides
    have hpast := Turn.spent_lt_budget_opened hstrides
    omega

/-! ### A machine that is loaded again -/

/-- No fault stops a frame of a program that jumps to itself. -/
theorem InJumpLoop.stop_eq_none {turn : Turn} (h : InJumpLoop turn.start) :
    turn.stats.stop = .none := by
  have hopened : InJumpLoop turn.opened := ⟨h.pc, h.high, h.low⟩
  have hstep : ∀ state, InJumpLoop state →
      ∃ next instruction, state.step = .ok (next, instruction) ∧ InJumpLoop next := by
    intro state hloop
    obtain ⟨next, instruction, htaken, hnext, -⟩ := hloop.step
    exact ⟨next, instruction, htaken, hnext⟩
  exact turn.stop_eq_none_iff.mpr (State.fault_walk_eq_none hstep hopened).1

/-- What a host calls for to let a machine fail twice. -/
def failTwice : List Call := [.frame (.integer 0), .frame (.integer 0)]

/-- What it calls for to load a program that jumps to itself. -/
def loadJump : Call := .load (.ofBytes [0x12, 0x00])

/-- All that it calls for: a program that fails at once, two frames and the other program. -/
def reloading : List Call :=
  .load (.ofBytes [0xFF, 0xFF]) :: (failTwice ++ [loadJump])

theorem run_reloading :
    (Machine.fresh (.ofSeed 0) plainConsole [] (.real 0)).run reloading =
      ((deadEnd.run failTwice).answer loadJump).1 := by
  rw [← Machine.run_concat, deadEnd, reloading, Machine.run_cons, Machine.run_cons,
    Machine.run_nil]

theorem stalled_failTwice : Machine.Stalled deadEnd 2 (deadEnd.run failTwice) := by
  have hmasks : ∀ mask ∈ [Mask.integer 0, .integer 0],
      ∃ keypad, mask.toKeypad = .ok keypad := by
    rw [List.forall_mem_cons, List.forall_mem_singleton]
    exact ⟨⟨0, rfl⟩, ⟨0, rfl⟩⟩
  exact (Machine.Stalled.refl steady_deadEnd).run step_deadEnd hmasks

/-- The other program finds the grants of both frames. -/
theorem state_loadJump {machine : Machine} (h : Machine.Stalled deadEnd 2 machine) :
    (machine.answer loadJump).1.state.budget.toInt = 33332 ∧
      InJumpLoop (machine.answer loadJump).1.state := by
  have hload : Machine.loadedState machine.state (.ofBytes [0x12, 0x00]) =
      { machine.state with
        memory := Bank.writeAll machine.state.memory [(0x200, 0x12), (0x201, 0x00)] } := rfl
  have hpc : machine.state.pc = 0x200 := by
    rw [h.state, state_deadEnd]
    rfl
  have hgranted : deadEnd.granted 2 = 33332 := by
    rw [Machine.granted, state_deadEnd]
    rfl
  have hbudget : machine.state.budget.toInt = 33332 := by
    have hmodEq := h.budget
    rw [hgranted] at hmodEq
    exact toInt_eq_of_modEq hmodEq (by decide) (by decide)
  rw [loadJump, Machine.answer, (h.steady.harmless.rests_load _).state, hload]
  refine ⟨hbudget, hpc, ?_, ?_⟩
  · simp [Bank.getElem_write]
  · simp [Bank.getElem_write]

theorem le_elapsed_loadJump {state : State} (hbudget : state.budget.toInt = 33332)
    (h : InJumpLoop state) : 49998 ≤ (Turn.mk state 0).stats.elapsed.toInt := by
  have hfine : (Turn.mk state 0).stats.stop = .none := h.stop_eq_none
  have hspent := Turn.le_toInt_elapsed hfine (by rw [hbudget]; decide) (by rw [hbudget]; decide)
  rwa [hbudget] at hspent

/-- Two failed frames let the frame that follows them spend three grants. -/
theorem frame_time_reloading :
    let machine := (Machine.fresh (.ofSeed 0) plainConsole [] (.real 0)).run reloading
    (Mask.integer 0).toKeypad = .ok 0 ∧
      16665 + 22734 < (Turn.mk machine.state 0).stats.elapsed.toInt := by
  dsimp only
  obtain ⟨hbudget, hloop⟩ := state_loadJump stalled_failTwice
  rw [run_reloading]
  exact ⟨rfl, Int.lt_of_lt_of_le (by decide) (le_elapsed_loadJump hbudget hloop)⟩

/-- Three grants and the overrun are all that it may spend. -/
theorem frame_time_le_reloading :
    let start := Machine.fresh (.ofSeed 0) plainConsole [] (.real 0)
    let machine := start.run reloading
    (Mask.integer 0).toKeypad = .ok 0 ∧ failedLast (start.turns reloading) ≤ 2 ∧
      (Turn.mk machine.state 0).stats.elapsed.toInt ≤ 16665 + 22734 + 16666 * 2 := by
  intro start machine
  have hmask : (Mask.integer 0).toKeypad = .ok 0 := rfl
  have hfailed : failedLast (start.turns reloading) ≤ 2 :=
    (List.rtakeWhile_suffix _ _).length_le
  have hobservers : ∀ observer ∈ ([] : List Observer), observer.Harmless := List.forall_mem_nil _
  obtain ⟨-, hbound, -⟩ := frame_time_le 0 plainConsole hobservers (.real 0) reloading hmask
  refine ⟨hmask, hfailed, Int.le_trans hbound ?_⟩
  have hgrants : 16666 * (failedLast (start.turns reloading) : Int) ≤ 16666 * 2 := by omega
  exact Int.add_le_add_left hgrants _

end Chip8
