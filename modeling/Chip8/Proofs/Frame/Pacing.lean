import Mathlib.Data.List.FinRange
import Mathlib.Order.Bounds.Basic
import Chip8.Proofs.Execute.Changes
import Chip8.Proofs.Frame.Spending
import Chip8.Proofs.Frame.Turn
import Chip8.Proofs.Guard.Reach

/-!
# Frames keep pace

A frame grants 16666 microseconds and carries out instructions until they are spent.
The last instruction may cost more than what is left; the debt is paid by the frames
that follow.  So the time that frames spend does not drift away from the time that they
were granted, however many there are.

## Strategy

Within one frame an instruction is carried out only while budget is left
(`State.covered_walk`), and a frame that no fault stops leaves none
(`State.toInt_budget_last_le`).  The debt is less than the dearest instruction, so the
budget stays between -22734 and 0 from frame to frame (`Settled`), and no number of 32
bits wraps.

Over several frames the same two facts hold of all instructions together
(`Settled.runFrames`): before each of them less had been spent than was granted, and at
the end at least as much.  A frame is idle only if it begins with more debt than it
grants, and only a drawing can leave that much.
-/

namespace Chip8

open Layout

/-! ### Credit -/

/-- Only a drawing costs more than a frame grants. -/
theorem Stride.op_eq_drw {stride : Stride} (h : (frameBudget : Int) < stride.cost) :
    stride.instruction.op = .drw := by
  unfold Stride.cost at h
  cases hop : stride.instruction.op
  case drw => rfl
  all_goals
    rw [hop] at h
    exact absurd h (by decide)

/-- Each of some instructions finds credit left, after those before it have taken their
cost off it. -/
def Covered (credit : Int) : List Stride → Prop
  | [] => True
  | stride :: strides => 0 < credit ∧ Covered (credit - stride.cost) strides

theorem covered_append {credit : Int} {first second : List Stride} :
    Covered credit (first ++ second) ↔
      Covered credit first ∧ Covered (credit - spent first) second := by
  induction first generalizing credit with
  | nil => simp [Covered]
  | cons stride first ih =>
      have hrest : credit - stride.cost - spent first = credit - spent (stride :: first) := by
        rw [spent_cons]
        omega
      simp only [List.cons_append, Covered, ih, hrest, and_assoc]

theorem Covered.mono {credit more : Int} {strides : List Stride} (hle : credit ≤ more)
    (h : Covered credit strides) : Covered more strides := by
  induction strides generalizing credit more with
  | nil => trivial
  | cons stride strides ih => exact ⟨by have := h.1; omega, ih (by omega) h.2⟩

/-- Before each of covered instructions less was spent than there was credit. -/
theorem Covered.spent_take_lt {credit : Int} {strides : List Stride} (h : Covered credit strides)
    {n : Nat} (hn : n < strides.length) : spent (strides.take n) < credit := by
  induction strides generalizing credit n with
  | nil => simp at hn
  | cons stride strides ih =>
      cases n with
      | zero => exact h.1
      | succ n =>
          have hrest := ih h.2 (Nat.lt_of_succ_lt_succ hn)
          rw [List.take_succ_cons, spent_cons]
          omega

/-- Covered instructions that use up their credit are as few as can do so. -/
theorem Covered.isLeast {credit : Int} {strides : List Stride} (h : Covered credit strides)
    (hall : credit ≤ spent strides) :
    IsLeast {n | credit ≤ ((strides.map Stride.cost).take n).sum}
      (strides.map Stride.cost).length := by
  refine ⟨?_, ?_⟩
  · rw [Set.mem_ofPred_eq, List.take_length]
    exact hall
  · intro n hn
    rw [Set.mem_ofPred_eq, ← List.map_take] at hn
    rw [List.length_map]
    by_contra hfew
    exact absurd hn (Int.not_le.mpr (h.spent_take_lt (Nat.not_le.mp hfew)))

namespace State

/-! ### One frame -/

variable {state next : State}

theorem budget_pos_iff : 0 < state.budget ↔ 0 < state.budget.toInt := by
  rw [Int32.lt_iff_toInt_lt]
  rfl

/-- A step takes off its cost and does not wrap. -/
theorem toInt_budget_of_step {instruction : Instruction} (hbudget : 0 < state.budget)
    (h : state.step = .ok (next, instruction)) :
    next.budget.toInt = state.budget.toInt - Stride.cost ⟨state, instruction, next⟩ := by
  rw [budget_step h]
  exact Frame.toInt_budget_sub_cost hbudget instruction.op

/-- A walk takes off what its strides cost, without wrapping. -/
theorem toInt_budget_last (state : State) :
    state.walk.last.budget.toInt = state.budget.toInt - spent state.walk.strides := by
  induction state using walk_induction with
  | spent state hbudget => simp [walk_of_spent hbudget]
  | refused state fault hbudget hstep => simp [walk_of_error hbudget hstep]
  | taken state next instruction hbudget hstep ih =>
      have hnext := toInt_budget_of_step hbudget hstep
      simp only [walk_of_ok hbudget hstep, spent_cons]
      omega

/-- A walk goes on only while budget is left. -/
theorem covered_walk (state : State) : Covered state.budget.toInt state.walk.strides := by
  induction state using walk_induction with
  | spent state hbudget =>
      rw [walk_of_spent hbudget]
      trivial
  | refused state fault hbudget hstep =>
      rw [walk_of_error hbudget hstep]
      trivial
  | taken state next instruction hbudget hstep ih =>
      rw [walk_of_ok hbudget hstep]
      rw [toInt_budget_of_step hbudget hstep] at ih
      exact ⟨budget_pos_iff.mp hbudget, ih⟩

/-- Nor does any of its strides wrap the budget. -/
theorem toInt_budget_after {stride : Stride} (h : stride ∈ state.walk.strides) :
    stride.after.budget.toInt = stride.before.budget.toInt - stride.cost := by
  induction state using walk_induction with
  | spent state hbudget => simp [walk_of_spent hbudget] at h
  | refused state fault hbudget hstep => simp [walk_of_error hbudget hstep] at h
  | taken state next instruction hbudget hstep ih =>
      rw [walk_of_ok hbudget hstep] at h
      rcases List.mem_cons.mp h with rfl | hrest
      · exact toInt_budget_of_step hbudget hstep
      · exact ih hrest

theorem toInt_budget_last_le (h : state.walk.fault = none) :
    state.walk.last.budget.toInt ≤ 0 := by
  induction state using walk_induction with
  | spent state hbudget =>
      rw [walk_of_spent hbudget]
      rw [budget_pos_iff] at hbudget
      exact Int.not_lt.mp hbudget
  | refused state fault hbudget hstep => simp [walk_of_error hbudget hstep] at h
  | taken state next instruction hbudget hstep ih =>
      simp only [walk_of_ok hbudget hstep] at h ⊢
      exact ih h

/-- Beginning a frame grants its time, and wraps only beyond two billion microseconds. -/
theorem toInt_budget_beginFrame {keypad : UInt16}
    (h : state.budget.toInt + frameBudget < 2 ^ 31) :
    (state.beginFrame keypad).budget.toInt = state.budget.toInt + frameBudget := by
  have hlow := state.budget.le_toInt
  have hgrant : (Int32.ofNat frameBudget).toInt = frameBudget := rfl
  simp only [beginFrame, Int32.toInt_add, hgrant]
  exact Int.bmod_eq_of_le (by omega) (by omega)

end State

/-! ### Debts -/

theorem grant_eq : (frameBudget : Int) = 16666 := rfl

/-- Nothing is left of the budget, and the debt is less than the dearest instruction. -/
structure Settled (state : State) : Prop where
  lower : -22734 < state.budget.toInt
  upper : state.budget.toInt ≤ 0

namespace Turn

variable {turn : Turn}

theorem toInt_budget_opened (h : Settled turn.start) :
    turn.opened.budget.toInt = turn.start.budget.toInt + frameBudget := by
  have hupper := h.upper
  exact State.toInt_budget_beginFrame (by rw [grant_eq]; omega)

theorem toInt_budget_final (turn : Turn) :
    turn.final.budget.toInt = turn.opened.budget.toInt - spent turn.strides := by
  rw [final_eq_last, strides, State.toInt_budget_last]

theorem covered_strides (turn : Turn) : Covered turn.opened.budget.toInt turn.strides := by
  rw [strides]
  exact turn.opened.covered_walk

/-- All instructions of a frame but the last cost less together than it had to spend. -/
theorem spent_lt_budget_opened {past : List Stride} {stride : Stride}
    (h : turn.strides = past ++ [stride]) : spent past < turn.opened.budget.toInt := by
  have hcovered := turn.covered_strides
  rw [h] at hcovered
  have hlast := (covered_append.mp hcovered).2.1
  omega

/-- A frame that has something to spend spends less than that and the dearest instruction
together. -/
theorem spent_le (turn : Turn) {most : Int} (hmost : turn.opened.budget.toInt ≤ most)
    (hpositive : 0 < most) : spent turn.strides ≤ most - 1 + 22734 := by
  rcases List.eq_nil_or_concat' turn.strides with hidle | ⟨past, stride, hstrides⟩
  · rw [hidle, spent_nil]
    omega
  · have hpast := spent_lt_budget_opened hstrides
    have hcost := stride.cost_bounds.2
    rw [hstrides, spent_append, spent_cons, spent_nil]
    omega

/-- A frame that carries something out leaves less debt than its last instruction cost. -/
theorem neg_cost_lt_budget_final {past : List Stride} {stride : Stride}
    (h : turn.strides = past ++ [stride]) : -stride.cost < turn.final.budget.toInt := by
  have hpast := spent_lt_budget_opened h
  rw [toInt_budget_final, h, spent_append, spent_cons, spent_nil]
  omega

theorem toInt_budget_final_le (hfine : turn.stats.stop = .none) :
    turn.final.budget.toInt ≤ 0 := by
  rw [final_eq_last]
  exact State.toInt_budget_last_le (turn.stop_eq_none_iff.mp hfine)

theorem toInt_budget_final_pos (hstopped : turn.stats.stop ≠ .none) :
    0 < turn.final.budget.toInt := by
  rw [Ne, stop_eq_none_iff, ← Ne, Option.ne_none_iff_exists'] at hstopped
  obtain ⟨fault, hfault⟩ := hstopped
  rw [final_eq_last, ← State.budget_pos_iff]
  exact State.budget_pos_of_fault hfault

/-- A frame that no fault stops leaves no budget, and a debt below the dearest
instruction. -/
theorem settled_final (h : Settled turn.start) (hfine : turn.stats.stop = .none) :
    Settled turn.final := by
  have hlower := h.lower
  refine ⟨?_, ?_⟩
  · rcases List.eq_nil_or_concat' turn.strides with hidle | ⟨past, stride, hstrides⟩
    · rw [toInt_budget_final, hidle, spent_nil, toInt_budget_opened h, grant_eq]
      omega
    · have hdebt := neg_cost_lt_budget_final hstrides
      have hcost := stride.cost_bounds.2
      omega
  · exact toInt_budget_final_le hfine

/-- Only after a drawing is there so much debt that a frame can do nothing but pay. -/
theorem op_eq_drw_of_debt (h : Settled turn.start)
    (hdebt : turn.final.budget.toInt ≤ -frameBudget) :
    ∃ stride, turn.strides.getLast? = some stride ∧ stride.instruction.op = .drw := by
  have hlower := h.lower
  rcases List.eq_nil_or_concat' turn.strides with hidle | ⟨past, stride, hstrides⟩
  · -- Whoever pays all the time does not leave that much.
    rw [toInt_budget_final, hidle, spent_nil, toInt_budget_opened h, grant_eq] at hdebt
    omega
  · refine ⟨stride, by rw [hstrides, List.getLast?_concat], ?_⟩
    have hcost := neg_cost_lt_budget_final hstrides
    exact Stride.op_eq_drw (by omega)

theorem debt_of_idle (h : Settled turn.start) (hfine : turn.stats.stop = .none)
    (hidle : turn.strides = []) : turn.start.budget.toInt ≤ -frameBudget := by
  have hfinal := (settled_final h hfine).upper
  rw [toInt_budget_final, hidle, spent_nil, toInt_budget_opened h] at hfinal
  omega

end Turn

namespace Settled

variable {state : State} {keypads : List UInt16}

/-- Every frame begins settled if the first does and no fault stops any. -/
theorem start (h : Settled state) (hfine : ∀ turn ∈ state.turns keypads, turn.stats.stop = .none) :
    ∀ turn ∈ state.turns keypads, Settled turn.start := by
  induction keypads generalizing state with
  | nil => simp
  | cons keypad keypads ih =>
      rw [State.turns_cons, List.forall_mem_cons] at hfine ⊢
      exact ⟨h, ih (Turn.settled_final h hfine.1) hfine.2⟩

/-- Over several frames that no fault stops, the budget loses what the instructions cost
and gains what the frames grant, and each instruction is covered by what was granted. -/
theorem runFrames (h : Settled state)
    (hfine : ∀ turn ∈ state.turns keypads, turn.stats.stop = .none) :
    let strides := (state.turns keypads).flatMap Turn.strides
    let credit := state.budget.toInt + frameBudget * keypads.length
    Settled (state.runFrames keypads) ∧
      (state.runFrames keypads).budget.toInt = credit - spent strides ∧
      Covered credit strides := by
  induction keypads generalizing state with
  | nil => exact ⟨h, by simp, trivial⟩
  | cons keypad keypads ih =>
      rw [State.turns_cons, List.forall_mem_cons] at hfine
      obtain ⟨hsettled, hbudget, hcovered⟩ := ih (Turn.settled_final h hfine.1) hfine.2
      have hopened : (Turn.mk state keypad).opened.budget.toInt = _ := Turn.toInt_budget_opened h
      have hfinal := Turn.toInt_budget_final ⟨state, keypad⟩
      have hfirst := Turn.covered_strides ⟨state, keypad⟩
      -- The debt of the first frame is paid from the credit of all of them.
      simp only [State.turns_cons, State.runFrames_cons, List.flatMap_cons, List.length_cons,
        spent_append, covered_append, grant_eq] at hbudget hcovered hopened ⊢
      refine ⟨hsettled, by omega, hfirst.mono (by omega), hcovered.mono (by omega)⟩

/-- An idle frame comes after one that ended with a drawing, unless it is the first and
that begins with too much debt. -/
theorem exists_drawing_before (h : Settled state)
    (hfine : ∀ turn ∈ state.turns keypads, turn.stats.stop = .none)
    (hdebt : -frameBudget < state.budget.toInt) {early late : List Turn} {turn : Turn}
    (hturns : state.turns keypads = early ++ turn :: late) (hidle : turn.strides = []) :
    ∃ earlier previous stride, early = earlier ++ [previous] ∧
      previous.strides.getLast? = some stride ∧ stride.instruction.op = .drw := by
  have hstart := h.start hfine
  have hmem : turn ∈ state.turns keypads := by rw [hturns]; simp
  have howed := Turn.debt_of_idle (hstart turn hmem) (hfine turn hmem) hidle
  rcases State.turns_split hturns with ⟨-, hfirst⟩ | ⟨earlier, previous, rfl, hprevious⟩
  · rw [hfirst] at howed
    omega
  · have hbefore : previous ∈ state.turns keypads := by rw [hturns]; simp
    rw [hprevious] at howed
    obtain ⟨stride, hlast, hop⟩ := Turn.op_eq_drw_of_debt (hstart previous hbefore) howed
    exact ⟨earlier, previous, stride, rfl, hlast, hop⟩

end Settled

/-! ### A loop that draws -/

/-- A machine with a program that draws an empty sprite and begins again. -/
def drawingLoop : State :=
  { State.ofSeed 0 with
    memory := Bank.writeAll State.blankMemory
      [(0x200, 0xD0), (0x201, 0x00), (0x202, 0x12), (0x203, 0x00)] }

/-- The next instruction is one of that program. -/
structure InDrawingLoop (state : State) : Prop where
  memory : state.memory = drawingLoop.memory
  pc : state.pc = 0x200 ∨ state.pc = 0x202

theorem InDrawingLoop.step (state : State) (h : InDrawingLoop state) :
    ∃ next instruction, state.step = .ok (next, instruction) ∧ InDrawingLoop next := by
  have hbytes : drawingLoop.memory[0x200] = 0xD0 ∧ drawingLoop.memory[0x201] = 0x00 ∧
      drawingLoop.memory[0x202] = 0x12 ∧ drawingLoop.memory[0x203] = 0x00 := by
    decide +kernel
  rw [← h.memory] at hbytes
  rcases h.pc with hpc | hpc
  · have hfetch : state.fetch = .ok 0xD000 :=
      State.fetch_at (by rw [hpc]; rfl) (by decide) hbytes.1 hbytes.2.1
    have hdecode : decode (0xD000 : UInt16).toNat = .ok ⟨⟨0xD000, 0, 0, 0, 0, 0⟩, .drw⟩ := by
      decide
    refine ⟨_, _, State.step_of_check hfetch hdecode rfl, ?_, Or.inr ?_⟩
    · exact (Execute.memory_execute _ _ _).trans h.memory
    · simp only [State.charge, State.execute, execute, Execute.drawSprite, State.setFlag,
        State.setRegister, State.advance, hpc]
      rfl
  · have hfetch : state.fetch = .ok 0x1200 :=
      State.fetch_at (by rw [hpc]; rfl) (by decide) hbytes.2.2.1 hbytes.2.2.2
    have hdecode : decode (0x1200 : UInt16).toNat =
        .ok ⟨⟨0x1200, 2, 0, 0, 0, 0x200⟩, .jp⟩ := by
      decide
    refine ⟨_, _, State.step_of_check hfetch hdecode rfl, ?_, Or.inl rfl⟩
    exact (Execute.memory_execute _ _ _).trans h.memory

theorem stop_turns_drawingLoop (keypads : List UInt16) :
    ∀ turn ∈ drawingLoop.turns keypads, turn.stats.stop = .none :=
  State.stop_turns_eq_none (fun _ _ h => ⟨h.memory, h.pc⟩) InDrawingLoop.step
    ⟨rfl, Or.inl rfl⟩ keypads

/-! ### Many frames -/

/-- A machine that begins without budget or debt, as a fresh one does whatever program is
loaded, keeps pace with the frames that it runs as long as no fault stops one.  It has
carried out the least number of instructions that cost at least what all frames granted,
and its budget is the exact difference, less in debt than the dearest instruction costs;
no grant and no charge wraps.  A frame that carries out nothing follows one that ended
with a drawing, and so no two of them are in a row. -/
theorem frames_keep_pace (state : State) (hbudget : state.budget = 0) (keypads : List UInt16)
    (hfine : ∀ turn ∈ state.turns keypads, turn.stats.stop = .none) :
    let turns := state.turns keypads
    let costs := (turns.flatMap Turn.strides).map Stride.cost
    let budget := (state.runFrames keypads).budget.toInt
    (∀ turn ∈ turns, turn.stats.instructions.toInt = turn.strides.length) ∧
    IsLeast {n | 16666 * (keypads.length : Int) ≤ (costs.take n).sum} costs.length ∧
    budget = 16666 * keypads.length - costs.sum ∧ -22734 < budget ∧ budget ≤ 0 ∧
    (∀ turn ∈ turns, turn.opened.budget.toInt = turn.start.budget.toInt + 16666) ∧
    (∀ stride ∈ turns.flatMap Turn.strides,
      stride.after.budget.toInt = stride.before.budget.toInt - stride.cost) ∧
    (∀ early turn late, turns = early ++ turn :: late → turn.strides = [] →
      ∃ earlier previous stride, early = earlier ++ [previous] ∧
        previous.strides.getLast? = some stride ∧ stride.instruction.op = .drw) ∧
    (∀ early first second late, turns = early ++ first :: second :: late →
      first.strides ≠ [] ∨ second.strides ≠ []) := by
  intro turns costs budget
  have hzero : state.budget.toInt = 0 := by rw [hbudget]; rfl
  have hsettled : Settled state := ⟨by omega, by omega⟩
  obtain ⟨hfinal, hexact, hcovered⟩ := hsettled.runFrames hfine
  have hstart := hsettled.start hfine
  rw [hzero, grant_eq, Int.zero_add] at hexact hcovered
  have hdebt : -frameBudget < state.budget.toInt := by rw [grant_eq]; omega
  refine ⟨fun turn _ => turn.instructions_eq_length, ?_, hexact, hfinal.lower, hfinal.upper,
    ?_, ?_, ?_, ?_⟩
  · have hupper := hfinal.upper
    exact hcovered.isLeast (by omega)
  · intro turn hturn
    exact Turn.toInt_budget_opened (hstart turn hturn)
  · intro stride hstride
    obtain ⟨turn, -, hmem⟩ := List.mem_flatMap.mp hstride
    rw [Turn.strides] at hmem
    exact State.toInt_budget_after hmem
  · intro early turn late hturns hidle
    exact hsettled.exists_drawing_before hfine hdebt hturns hidle
  · intro early first second late hturns
    by_cases hidle : second.strides = []
    · have hsplit : state.turns keypads = (early ++ [first]) ++ second :: late := by
        rw [List.append_assoc]
        exact hturns
      obtain ⟨earlier, previous, stride, hearly, hlast, -⟩ :=
        hsettled.exists_drawing_before hfine hdebt hsplit hidle
      obtain ⟨-, hsame⟩ := List.append_inj' hearly rfl
      left
      intro hnone
      rw [List.singleton_inj.mp hsame.symm, hnone] at hlast
      simp at hlast
    · exact Or.inr hidle

/-- Four frames of the drawing loop, of which the last carries out nothing. -/
theorem frames_keep_pace_drawing :
    drawingLoop.budget = 0 ∧
    (∀ turn ∈ drawingLoop.turns [0, 0, 0, 0], turn.stats.stop = .none) ∧
    let costs := ((drawingLoop.turns [0, 0, 0, 0]).flatMap Turn.strides).map Stride.cost
    IsLeast {n | 16666 * 4 ≤ (costs.take n).sum} costs.length ∧
    (drawingLoop.runFrames [0, 0, 0, 0]).budget.toInt = 16666 * 4 - costs.sum := by
  have hfine := stop_turns_drawingLoop [0, 0, 0, 0]
  obtain ⟨-, hleast, hexact, -⟩ := frames_keep_pace drawingLoop rfl [0, 0, 0, 0] hfine
  exact ⟨rfl, hfine, hleast, hexact⟩

end Chip8
