import Mathlib.Algebra.BigOperators.Group.List.Basic
import Mathlib.Tactic.Ring
import Chip8.Proofs.Frame.Simulation
import Chip8.Tally

/-!
# Counting operations

A frame reports how often each operation was carried out, and a tally adds such reports
up.  `weigh` is what all counted operations come to if each time counts for the weight of
its operation: with weight one for all it is their number, and with the costs it is the
time they took.

Merging a report adds its weight (`weigh_merge`), ranking keeps it (`weigh_ranking`), and
the weight of a report is that of the operations it was made of (`weigh_opCounts`).
-/

namespace Chip8

namespace Tally

/-- What counted operations come to if each time counts for the weight of its operation. -/
def weigh (weight : Op → Int) (counts : List (Op × Int)) : Int :=
  (counts.map fun entry => weight entry.1 * entry.2).sum

variable (weight : Op → Int)

@[simp] theorem weigh_nil : weigh weight [] = 0 := rfl

@[simp] theorem weigh_cons (entry : Op × Int) (counts : List (Op × Int)) :
    weigh weight (entry :: counts) = weight entry.1 * entry.2 + weigh weight counts := rfl

theorem weigh_add (tally : Tally) (op : Op) (times : Int) :
    weigh weight (tally.add op times) = weigh weight tally + weight op * times := by
  unfold add
  induction tally with
  | nil => simp [update]
  | cons entry rest ih =>
      rw [update]
      split
      case isTrue hop =>
        rw [weigh_cons, weigh_cons, ← hop]
        ring
      case isFalse hop =>
        rw [weigh_cons, weigh_cons, ih]
        ring

/-- Merging adds what is merged. -/
theorem weigh_merge (tally : Tally) (counts : List (Op × Int)) :
    weigh weight (tally.merge counts) = weigh weight tally + weigh weight counts := by
  unfold merge
  induction counts generalizing tally with
  | nil => simp
  | cons entry counts ih =>
      rw [List.foldl_cons, ih, weigh_add, weigh_cons]
      ring

/-- A ranking loses nothing. -/
theorem weigh_ranking (tally : Tally) : weigh weight tally.ranking = weigh weight tally :=
  ((List.mergeSort_perm tally before).map _).sum_eq

theorem total_eq_sum (tally : Tally) : tally.total = (tally.map Prod.snd).sum := by
  have hfold : ∀ start : Int, tally.foldl (fun total entry => total + entry.2) start =
      start + (tally.map Prod.snd).sum := by
    induction tally with
    | nil => simp
    | cons entry rest ih =>
        intro start
        rw [List.foldl_cons, ih, List.map_cons, List.sum_cons]
        ring
  rw [total, hfold, Int.zero_add]

theorem weigh_one (tally : Tally) : weigh (fun _ => 1) tally = tally.total := by
  rw [total_eq_sum, weigh]
  simp only [one_mul]

/-! ### Single counts -/

@[simp] theorem count_nil (op : Op) : count [] op = 0 := rfl

theorem count_cons (entry : Op × Int) (rest : Tally) (op : Op) :
    count (entry :: rest) op = if entry.1 = op then entry.2 else count rest op := by
  unfold count
  rw [List.find?_cons]
  by_cases hop : entry.1 = op
  · simp [hop]
  · have hne : (entry.1 == op) = false := by simpa using hop
    rw [hne, if_neg hop]

theorem count_update (tally : Tally) (change : Int → Int) (op other : Op) :
    (tally.update change op).count other =
      if op = other then change (tally.count other) else tally.count other := by
  induction tally with
  | nil => simp [update, count_cons]
  | cons entry rest ih =>
      rw [update]
      split
      case isTrue hentry =>
        subst hentry
        by_cases hop : entry.1 = other
        · simp [count_cons, hop]
        · simp [count_cons, hop]
      case isFalse hentry =>
        rw [count_cons, count_cons, ih]
        by_cases hop : entry.1 = other
        · -- The entry that is looked for is not the one that changes.
          have hne : op ≠ other := fun h => hentry (hop.trans h.symm)
          simp [hop, hne]
        · simp [hop]

/-- The weight that finds a single operation. -/
def only (op other : Op) : Int := if other = op then 1 else 0

theorem count_merge (tally : Tally) (counts : List (Op × Int)) (op : Op) :
    (tally.merge counts).count op = tally.count op + weigh (only op) counts := by
  unfold merge
  induction counts generalizing tally with
  | nil => simp
  | cons entry counts ih =>
      rw [List.foldl_cons, ih, add, count_update, weigh_cons, only]
      by_cases hop : entry.1 = op
      · simp only [hop, if_true]
        ring
      · simp [hop]

end Tally

/-- The zeros that a report leaves out weigh nothing. -/
theorem FrameStats.weigh_opCounts_eq_sum (stats : FrameStats) (weight : Op → Int) :
    Tally.weigh weight stats.opCounts =
      (Op.all.toList.map fun op => weight op * (stats.count op).toInt).sum := by
  unfold FrameStats.opCounts
  induction Op.all.toList with
  | nil => rfl
  | cons op ops ih =>
      rw [List.map_cons, List.map_cons, List.sum_cons, ← ih, List.filter_cons]
      split
      case isTrue hcount => rfl
      case isFalse hcount =>
        have hzero : (stats.count op).toInt = 0 := by simpa using hcount
        rw [hzero, Int.mul_zero, Int.zero_add]

/-- Of all operations exactly one is the one looked for. -/
theorem Op.sum_ite_eq (value : Op → Int) (op : Op) :
    (Op.all.toList.map fun other => if other = op then value other else 0).sum = value op := by
  have hcount : Op.all.toList.count op = 1 := by cases op <;> rfl
  rw [List.sum_map_ite_eq]
  simp [hcount]

/-- Weighing operation by operation is weighing one instruction after another. -/
theorem Op.sum_count_eq (weight : Op → Int) (ops : List Op) :
    (Op.all.toList.map fun op => weight op * (ops.count op : Int)).sum = (ops.map weight).sum := by
  induction ops with
  | nil => simp
  | cons op ops ih =>
      rw [List.map_cons, List.sum_cons, ← ih, ← Op.sum_ite_eq weight op, ← List.sum_map_add]
      refine congrArg List.sum (List.map_congr_left fun other _ => ?_)
      rw [List.count_cons]
      by_cases hop : other = op
      · subst hop
        simp
        ring
      · have hne : (op == other) = false := by simpa using Ne.symm hop
        simp [hop, hne]

/-- The report of a frame weighs what its instructions weigh. -/
theorem State.weigh_opCounts_runFrame (state : State) (keypad : UInt16) (weight : Op → Int) :
    Tally.weigh weight (state.runFrame keypad).2.opCounts =
      ((state.beginFrame keypad).walk.strides.map fun stride =>
        weight stride.instruction.op).sum := by
  have hcount : ∀ op, ((state.runFrame keypad).2.count op).toInt =
      (state.frameOps keypad).count op := by
    intro op
    rw [State.toInt_count_runFrame, State.frameOps, List.count, List.countP_map]
    rfl
  rw [FrameStats.weigh_opCounts_eq_sum]
  simp only [hcount, Op.sum_count_eq, State.frameOps, List.map_map]
  rfl

end Chip8
