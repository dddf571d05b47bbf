import Mathlib.Algebra.Order.Floor.Div
import Chip8.Proofs.Frame.Pacing

/-!
# The loop of a frame ends

A frame goes round its loop for as long as budget is left and no instruction has failed.  A
program may jump wherever it likes, so nothing in the program makes the loop end.  It ends
because every round takes at least 27 microseconds off the budget, or else records a fault.

## Strategy

`rounds` goes round the loop a given number of times, whether or not a round is due.  The
rounds of a frame are the strides of its walk, one by one (`rounds_of_strides`), and one
more if a fault stops the walk (`exact_of_fault`).  The walk knows how many strides there
are and that each begins with budget left.  So every round up to the last is due
(`running_of_stride`), and it charges and counts exactly what it carries out
(`exact_of_stride`): no number of 32 bits wraps.
-/

namespace Chip8

open Layout

namespace Frame

/-- The loop after so many rounds. -/
def rounds (state : State) (stats : FrameStats) : Nat → State × FrameStats
  | 0 => (state, stats)
  | n + 1 => rounds (tick state stats).1 (tick state stats).2 n

/-- A round has charged and counted the instruction at hand without wrapping, or it has
recorded why the frame stops and has done nothing else. -/
inductive Exact (before after : State × FrameStats) : Prop where
  | carriedOut (op : Op)
      (found : (Decode.Table.decode (word before.1)).1 = some op)
      (stop : after.2.stop = .none)
      (budget : after.1.budget.toInt = before.1.budget.toInt - op.cost.toInt)
      (instructions : after.2.instructions.toInt = before.2.instructions.toInt + 1)
      (count : ∀ other, (after.2.count other).toInt =
        (before.2.count other).toInt + if op = other then 1 else 0)
  | stopped
      (stop : after.2.stop ≠ .none)
      (state : after.1 = before.1)
      (instructions : after.2.instructions = before.2.instructions)
      (count : ∀ op, after.2.count op = before.2.count op)

theorem rounds_succ (state : State) (stats : FrameStats) (n : Nat) :
    rounds state stats (n + 1) = rounds (tick state stats).1 (tick state stats).2 n := rfl

theorem rounds_succ_last (state : State) (stats : FrameStats) (n : Nat) :
    rounds state stats (n + 1) =
      tick (rounds state stats n).1 (rounds state stats n).2 := by
  induction n generalizing state stats with
  | zero => rfl
  | succ n ih => rw [rounds_succ, ih, rounds_succ]

theorem rounds_of_linked {first last : State} {strides : List Stride}
    (h : Linked first strides last) (stats : FrameStats) (hoperand : stats.operand = 0) :
    rounds first stats strides.length =
      (last, stats.recordAll (strides.map fun stride => stride.instruction.op)) := by
  induction h generalizing stats with
  | nil state => rfl
  | cons hstep _ ih =>
      rw [List.length_cons, rounds_succ, tick_of_ok stats hoperand hstep, List.map_cons,
        FrameStats.recordAll_cons]
      exact ih _ hoperand

/-! ### The rounds of a walk -/

variable {state : State} {past rest : List Stride} {stride : Stride}

/-- After a round for each of the strides before it, the loop is where a stride begins. -/
theorem rounds_of_strides (h : state.walk.strides = past ++ stride :: rest) :
    rounds state .empty past.length =
      (stride.before, FrameStats.empty.recordAll (past.map (·.instruction.op))) := by
  have hlinked := state.linked_walk
  rw [h] at hlinked
  exact rounds_of_linked hlinked.split.1 .empty rfl

theorem running_of_stride (h : state.walk.strides = past ++ stride :: rest) :
    Running (rounds state .empty past.length).1 (rounds state .empty past.length).2 := by
  have hmem : stride ∈ state.walk.strides := h ▸ List.mem_append_cons_self
  rw [rounds_of_strides h]
  exact ⟨State.budget_before_pos hmem, FrameStats.stop_recordAll _ _⟩

/-- The round of a stride charges and counts its instruction, without wrapping. -/
theorem exact_of_stride (h : state.walk.strides = past ++ stride :: rest) :
    Exact (rounds state .empty past.length) (rounds state .empty (past.length + 1)) := by
  have hlinked := state.linked_walk
  rw [h] at hlinked
  have hstep := hlinked.split.2.1
  have hmem : stride ∈ state.walk.strides := h ▸ List.mem_append_cons_self
  -- There are few enough strides that counting one more does not wrap.
  have hfew := state.length_strides_lt
  rw [h, List.length_append, List.length_cons] at hfew
  have hbefore : (past.map (·.instruction.op)).length < 2 ^ 31 := by
    rw [List.length_map]
    omega
  have hafter : (past.map (·.instruction.op) ++ [stride.instruction.op]).length < 2 ^ 31 := by
    rw [List.length_append, List.length_map, List.length_singleton]
    omega
  rw [rounds_succ_last, rounds_of_strides h,
    tick_of_ok _ (FrameStats.operand_recordAll _ _) hstep, ← FrameStats.recordAll_concat]
  refine .carriedOut stride.instruction.op ?_ (FrameStats.stop_recordAll _ _) ?_ ?_ fun op => ?_
  · exact congrArg Prod.fst (decode_word_of_step hstep)
  · exact State.toInt_budget_after hmem
  · rw [FrameStats.toInt_instructions_recordAll hafter,
      FrameStats.toInt_instructions_recordAll hbefore, List.length_append]
    exact Int.natCast_succ _
  · rw [FrameStats.toInt_count_recordAll hafter, FrameStats.toInt_count_recordAll hbefore,
      List.count_append, List.count_singleton]
    simp only [beq_iff_eq]
    split <;> simp

/-- The rounds of all strides are due and exact. -/
theorem running_and_exact_of_lt {n : Nat} (h : n < state.walk.strides.length) :
    Running (rounds state .empty n).1 (rounds state .empty n).2 ∧
      Exact (rounds state .empty n) (rounds state .empty (n + 1)) := by
  have hsplit : state.walk.strides = state.walk.strides.take n ++
      state.walk.strides[n] :: state.walk.strides.drop (n + 1) := by
    rw [List.getElem_cons_drop, List.take_append_drop]
  have hlength := List.length_take_of_le (Nat.le_of_lt h)
  rw [← hlength]
  exact ⟨running_of_stride hsplit, exact_of_stride hsplit⟩

theorem rounds_walk (state : State) :
    rounds state .empty state.walk.strides.length =
      (state.walk.last, FrameStats.empty.recordAll
        (state.walk.strides.map (·.instruction.op))) :=
  rounds_of_linked state.linked_walk .empty rfl

/-- The round of a step that fails records why, and is the last. -/
theorem exact_of_fault (stats : FrameStats) {fault : Fault} (h : state.step = .error fault) :
    Exact (state, stats) (tick state stats) ∧
      ¬Running (tick state stats).1 (tick state stats).2 := by
  obtain ⟨stop, operand, htick, hfault⟩ := tick_of_error stats h
  have hstop : stop ≠ .none := by
    rintro rfl
    contradiction
  rw [htick]
  exact ⟨.stopped hstop rfl rfl fun _ => rfl, fun running => hstop running.2⟩

/-- To go round while rounds are due is what the loop does. -/
theorem run_rounds {stats : FrameStats} {n : Nat}
    (h : ∀ k < n, Running (rounds state stats k).1 (rounds state stats k).2) :
    run (rounds state stats n).1 (rounds state stats n).2 = run state stats := by
  induction n with
  | zero => rfl
  | succ n ih =>
      rw [rounds_succ_last, ← run_of_running (h n n.lt_succ_self)]
      exact ih fun k hk => h k (Nat.lt_succ_of_lt hk)

/-- The loop ends: there is a last round, and every round up to it is due and exact. -/
theorem exists_last_round (state : State) :
    ∃ last ≤ state.walk.strides.length + 1, rounds state .empty last = run state .empty ∧
      ¬Running (run state .empty).1 (run state .empty).2 ∧
      ∀ n < last, Running (rounds state .empty n).1 (rounds state .empty n).2 ∧
        Exact (rounds state .empty n) (rounds state .empty (n + 1)) := by
  suffices hlast : ∃ last ≤ state.walk.strides.length + 1,
      ¬Running (rounds state .empty last).1 (rounds state .empty last).2 ∧
      ∀ n < last, Running (rounds state .empty n).1 (rounds state .empty n).2 ∧
        Exact (rounds state .empty n) (rounds state .empty (n + 1)) by
    obtain ⟨last, hbound, hended, hrounds⟩ := hlast
    have hrun := run_rounds fun n hn => (hrounds n hn).1
    rw [run_of_not_running hended] at hrun
    rw [← hrun]
    exact ⟨last, hbound, rfl, hended, hrounds⟩
  -- The last round is that of the last stride, or the one after it that meets the fault.
  cases hfault : state.walk.fault with
  | none =>
      refine ⟨_, Nat.le_succ _, fun running => ?_, fun n => running_and_exact_of_lt⟩
      have hspent := State.toInt_budget_last_le hfault
      rw [rounds_walk] at running
      exact absurd (State.budget_pos_iff.mp running.1) (Int.not_lt.mpr hspent)
  | some fault =>
      obtain ⟨hexact, hended⟩ := exact_of_fault (FrameStats.empty.recordAll
        (state.walk.strides.map (·.instruction.op))) (State.step_last_of_fault hfault)
      refine ⟨_, Nat.le_refl _, ?_, fun n hn => ?_⟩
      · rw [rounds_succ_last, rounds_walk]
        exact hended
      · rcases Nat.lt_succ_iff_lt_or_eq.mp hn with hlt | rfl
        · exact running_and_exact_of_lt hlt
        · -- The round that records the fault begins with budget left, as all of them do.
          rw [rounds_succ_last, rounds_walk]
          exact ⟨⟨State.budget_pos_of_fault hfault, FrameStats.stop_recordAll _ _⟩, hexact⟩

end Frame

/-! ### The frame -/

/-- Whatever the state, the loop of a frame goes round a limited number of times, and every
round charges the budget and counts its instruction exactly.  A frame that begins with
budget to spend carries out at most one instruction for every 27 microseconds of it or part
thereof.  If nothing stops it, it leaves no budget and less debt than the dearest
instruction costs; if a fault does, it leaves some of what it began with.  A frame that
begins without budget, because of its debt or because the grant has wrapped, does nothing. -/
theorem frame_loop_ends (turn : Turn) :
    let loop := Frame.rounds turn.opened .empty
    let granted := turn.opened.budget.toInt
    let left := turn.final.budget.toInt
    granted = Int.bmod (turn.start.budget.toInt + 16666) (2 ^ 32) ∧
    (∃ last ≤ turn.strides.length + 1, loop last = (turn.final, turn.stats) ∧
      ¬Frame.Running turn.final turn.stats ∧
      ∀ n < last, Frame.Running (loop n).1 (loop n).2 ∧
        Frame.Exact (loop n) (loop (n + 1))) ∧
    turn.stats.instructions.toInt = turn.strides.length ∧
    turn.strides.length ≤ granted.toNat ⌈/⌉ 27 ∧
    (granted ≤ 0 → turn.final = turn.opened ∧ turn.stats = .empty) ∧
    (0 < granted → turn.stats.stop = .none → -22734 < left ∧ left ≤ 0) ∧
    (0 < granted → turn.stats.stop ≠ .none → 0 < left ∧ left ≤ granted) := by
  intro loop granted left
  have hleft : left = granted - spent turn.strides := turn.toInt_budget_final
  refine ⟨Int32.toInt_add _ _, Frame.exists_last_round turn.opened,
    turn.instructions_eq_length, ?_, fun hgranted => ?_, fun hgranted hfine => ?_,
    fun _ hstopped => ?_⟩
  · have hfew : 27 * turn.strides.length ≤ granted.toNat + 26 := turn.opened.length_strides_le
    rw [Nat.ceilDiv_eq_add_pred_div]
    omega
  · have hidle : ¬Frame.Running turn.opened .empty := fun running =>
      absurd (State.budget_pos_iff.mp running.1) (Int.not_lt.mpr hgranted)
    have hrun : (turn.final, turn.stats) = (turn.opened, .empty) :=
      Frame.run_of_not_running hidle
    exact Prod.mk.inj hrun
  · have hspent := turn.spent_le (Int.le_refl granted) hgranted
    exact ⟨by omega, Turn.toInt_budget_final_le hfine⟩
  · have hspent := spent_nonneg turn.strides
    exact ⟨Turn.toInt_budget_final_pos hstopped, by omega⟩

end Chip8
