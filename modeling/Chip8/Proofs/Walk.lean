import Mathlib.Algebra.Group.Nat.Defs
import Chip8.Frame
import Chip8.Step

/-!
# Walks

A walk takes single steps for as long as budget is left and ends before the first
step that fails.  It is what a frame is meant to do, said with `State.step`
alone: no statistics, no stop codes, one fault at most.

A walk keeps a `Stride` for every instruction that was carried out, with the
states before and after it.  The strides are linked (`Linked`): each begins where
the one before it ended.  Most of what is known of a frame is known of its
strides.

Every step that succeeds costs at least 27 microseconds of a positive budget, so
a walk ends, after few enough strides to be counted in 32 bits
(`length_strides_lt`).
-/

namespace Chip8

/-- One instruction that was carried out. -/
structure Stride where
  before : State
  instruction : Instruction
  after : State

/-- What taking single steps came to. -/
structure Walk where
  /-- The instructions that were carried out, oldest first. -/
  strides : List Stride
  /-- The state at the end. -/
  last : State
  /-- Why the next step failed, if it did. -/
  fault : Option Fault

namespace State

/-! ### What a step does -/

/-- A step that succeeds has fetched, decoded, checked and carried out one
instruction. -/
theorem step_eq_ok {state next : State} {instruction : Instruction}
    (h : state.step = .ok (next, instruction)) :
    ∃ word, state.fetch = .ok word ∧ decode word.toNat = .ok instruction ∧
      state.check instruction = .ok () ∧
      next = (state.execute instruction).charge instruction.cost := by
  unfold step at h
  cases hfetch : state.fetch with
  | error fault => simp [hfetch, bind, Except.bind] at h
  | ok word =>
      cases hdecode : decode word.toNat with
      | error fault => simp [hfetch, hdecode, bind, Except.bind] at h
      | ok decoded =>
          cases hcheck : state.check decoded with
          | error fault => simp [hfetch, hdecode, hcheck, bind, Except.bind] at h
          | ok _ =>
              simp only [hfetch, hdecode, hcheck, bind, Except.bind, pure, Except.pure,
                Except.ok.injEq, Prod.mk.injEq] at h
              obtain ⟨rfl, rfl⟩ := h
              exact ⟨word, rfl, hdecode, hcheck, rfl⟩

theorem step_eq_error_iff {state : State} {fault : Fault} :
    state.step = .error fault ↔
      (do
        let word ← state.fetch
        let instruction ← decode word.toNat
        state.check instruction) = .error fault := by
  unfold step
  cases state.fetch with
  | error found => simp [bind, Except.bind]
  | ok word =>
      cases hdecode : decode word.toNat with
      | error found => simp [hdecode, bind, Except.bind]
      | ok instruction =>
          cases hcheck : state.check instruction with
          | error found => simp [hdecode, hcheck, bind, Except.bind]
          | ok _ => simp [hdecode, hcheck, bind, Except.bind, pure, Except.pure]

/-- What a step fetches are the two bytes at the program counter. -/
theorem fetch_at {state : State} {address : Nat} {high low : UInt8}
    (hpc : state.pc.toNat = address) (h : address + 1 < Layout.memorySize)
    (hhigh : state.memory[address] = high) (hlow : state.memory[address + 1] = low) :
    state.fetch = .ok (high.toUInt16 <<< 8 ||| low.toUInt16) := by
  subst hpc hhigh hlow
  exact dif_pos (Nat.le_of_lt_succ (Nat.lt_of_succ_lt_succ h))

theorem step_of_check {state : State} {word : UInt16} {instruction : Instruction}
    (hfetch : state.fetch = .ok word) (hdecode : decode word.toNat = .ok instruction)
    (hcheck : state.check instruction = .ok ()) :
    state.step = .ok ((state.execute instruction).charge instruction.cost, instruction) := by
  simp only [step, hfetch, hdecode, hcheck, bind, Except.bind, pure, Except.pure]

theorem budget_step {state next : State} {instruction : Instruction}
    (h : state.step = .ok (next, instruction)) :
    next.budget = state.budget - instruction.cost := by
  obtain ⟨_, _, _, _, rfl⟩ := step_eq_ok h
  simp only [charge, budget_execute]

/-- A step from a positive budget takes at least 27 microseconds and does not wrap. -/
theorem toInt_budget_step {state next : State} {instruction : Instruction}
    (hbudget : 0 < state.budget) (h : state.step = .ok (next, instruction)) :
    next.budget.toInt + 27 ≤ state.budget.toInt ∧
      state.budget.toInt ≤ next.budget.toInt + 22734 := by
  have hlow := instruction.op.le_toInt_cost
  have hhigh := instruction.op.toInt_cost_le
  have hnext : next.budget.toInt = state.budget.toInt - instruction.op.cost.toInt := by
    rw [budget_step h]
    exact Frame.toInt_budget_sub_cost hbudget instruction.op
  omega

/-! ### Walking -/

/-- Take single steps while budget is left, and stop before the first that fails. -/
def walk (state : State) : Walk :=
  if _hbudget : 0 < state.budget then
    match _hstep : state.step with
    | .error fault => ⟨[], state, some fault⟩
    | .ok (next, instruction) =>
        let rest := next.walk
        ⟨⟨state, instruction, next⟩ :: rest.strides, rest.last, rest.fault⟩
  else ⟨[], state, none⟩
termination_by state.budget.toInt.toNat
decreasing_by
  have hpositive : 0 < state.budget.toInt := by simpa using Int32.lt_iff_toInt_lt.mp _hbudget
  have := toInt_budget_step _hbudget _hstep
  omega

theorem walk_of_spent {state : State} (h : ¬0 < state.budget) :
    state.walk = ⟨[], state, none⟩ := by
  rw [walk, dif_neg h]

theorem walk_of_error {state : State} {fault : Fault} (hbudget : 0 < state.budget)
    (h : state.step = .error fault) : state.walk = ⟨[], state, some fault⟩ := by
  rw [walk, dif_pos hbudget]
  split <;> simp_all

theorem walk_of_ok {state next : State} {instruction : Instruction} (hbudget : 0 < state.budget)
    (h : state.step = .ok (next, instruction)) :
    state.walk =
      ⟨⟨state, instruction, next⟩ :: next.walk.strides, next.walk.last, next.walk.fault⟩ := by
  rw [walk, dif_pos hbudget]
  split <;> simp_all

/-- To prove something of every state by following its walk. -/
theorem walk_induction {motive : State → Prop}
    (spent : ∀ state : State, ¬0 < state.budget → motive state)
    (refused : ∀ (state : State) (fault : Fault), 0 < state.budget →
      state.step = .error fault → motive state)
    (taken : ∀ (state next : State) (instruction : Instruction), 0 < state.budget →
      state.step = .ok (next, instruction) → motive next → motive state)
    (state : State) : motive state := by
  fun_induction walk state with
  | case1 state hbudget fault hstep => exact refused state fault hbudget hstep
  | case2 state hbudget next instruction hstep rest ih =>
      exact taken state next instruction hbudget hstep ih
  | case3 state hbudget => exact spent state hbudget

/-- A walk has at most one stride for every 27 microseconds of its budget, or part
thereof. -/
theorem length_strides_le (state : State) :
    27 * state.walk.strides.length ≤ state.budget.toInt.toNat + 26 := by
  induction state using walk_induction with
  | spent state hbudget => simp [walk_of_spent hbudget]
  | refused state fault hbudget hstep => simp [walk_of_error hbudget hstep]
  | taken state next instruction hbudget hstep ih =>
      have hpositive : 0 < state.budget.toInt := by
        simpa using Int32.lt_iff_toInt_lt.mp hbudget
      have hspent := (toInt_budget_step hbudget hstep).1
      simp only [walk_of_ok hbudget hstep, List.length_cons]
      by_cases hleft : 0 < next.budget
      · omega
      · -- The last stride may overrun the budget, and nothing follows it.
        simp only [walk_of_spent hleft, List.length_nil] at ih ⊢
        omega

/-- The budget has 31 bits and no instruction is free, so that 31 bits also hold the number
of strides. -/
theorem length_strides_lt (state : State) : state.walk.strides.length < 2 ^ 31 := by
  have hstrides := state.length_strides_le
  have hbudget := state.budget.toInt_lt
  omega

theorem budget_before_pos {state : State} {stride : Stride} (h : stride ∈ state.walk.strides) :
    0 < stride.before.budget := by
  induction state using walk_induction with
  | spent state hbudget => simp [walk_of_spent hbudget] at h
  | refused state fault hbudget hstep => simp [walk_of_error hbudget hstep] at h
  | taken state next instruction hbudget hstep ih =>
      rw [walk_of_ok hbudget hstep] at h
      rcases List.mem_cons.mp h with rfl | hrest
      · exact hbudget
      · exact ih hrest

/-- The fault of a walk is that of the step it stopped before. -/
theorem step_last_of_fault {state : State} {fault : Fault} (h : state.walk.fault = some fault) :
    state.walk.last.step = .error fault := by
  induction state using walk_induction with
  | spent state hbudget => simp [walk_of_spent hbudget] at h
  | refused state found hbudget hstep =>
      simp only [walk_of_error hbudget hstep, Option.some.injEq] at h ⊢
      rw [hstep, h]
  | taken state next instruction hbudget hstep ih =>
      simp only [walk_of_ok hbudget hstep] at h ⊢
      exact ih h

theorem budget_pos_of_fault {state : State} {fault : Fault} (h : state.walk.fault = some fault) :
    0 < state.walk.last.budget := by
  induction state using walk_induction with
  | spent state hbudget => simp [walk_of_spent hbudget] at h
  | refused state found hbudget hstep =>
      rw [walk_of_error hbudget hstep]
      exact hbudget
  | taken state next instruction hbudget hstep ih =>
      simp only [walk_of_ok hbudget hstep] at h ⊢
      exact ih h

/-- A property that keeps every step from failing lasts to the end of a walk, which no
fault stops. -/
theorem fault_walk_eq_none {good : State → Prop}
    (hstep : ∀ state, good state →
      ∃ next instruction, state.step = .ok (next, instruction) ∧ good next)
    {state : State} (h : good state) : state.walk.fault = none ∧ good state.walk.last := by
  induction state using walk_induction with
  | spent state hbudget =>
      rw [walk_of_spent hbudget]
      exact ⟨rfl, h⟩
  | refused state fault hbudget hrefused =>
      obtain ⟨next, instruction, htaken, -⟩ := hstep state h
      rw [hrefused] at htaken
      contradiction
  | taken state next instruction hbudget htaken ih =>
      obtain ⟨other, found, hother, hgood⟩ := hstep state h
      rw [htaken, Except.ok.injEq, Prod.mk.injEq] at hother
      rw [walk_of_ok hbudget htaken]
      exact ih (hother.1 ▸ hgood)

/-- A walk takes off the budget what its strides cost, and nothing else. -/
theorem budget_last_walk (state : State) :
    state.walk.last.budget =
      state.budget - (state.walk.strides.map fun stride => stride.instruction.cost).sum := by
  induction state using walk_induction with
  | spent state hbudget => simp [walk_of_spent hbudget]
  | refused state fault hbudget hstep => simp [walk_of_error hbudget hstep]
  | taken state next instruction hbudget hstep ih =>
      simp only [walk_of_ok hbudget hstep, List.map_cons, List.sum_cons]
      rw [ih, budget_step hstep, Int32.sub_sub]

end State

/-! ### Links -/

/-- Strides that follow one another from one state to another. -/
inductive Linked : State → List Stride → State → Prop where
  | nil (state : State) : Linked state [] state
  | cons {state next last : State} {instruction : Instruction} {strides : List Stride}
      (h : state.step = .ok (next, instruction)) (rest : Linked next strides last) :
      Linked state (⟨state, instruction, next⟩ :: strides) last

/-- Linked strides are linked up to each of them and from there on. -/
theorem Linked.split {state last : State} {past rest : List Stride} {stride : Stride}
    (h : Linked state (past ++ stride :: rest) last) :
    Linked state past stride.before ∧
      stride.before.step = .ok (stride.after, stride.instruction) ∧
      Linked stride.after rest last := by
  induction past generalizing state with
  | nil =>
      cases h with
      | cons hstep hrest => exact ⟨.nil _, hstep, hrest⟩
  | cons first past ih =>
      cases h with
      | cons hstep hrest =>
          obtain ⟨hpast, hstride, hrest⟩ := ih hrest
          exact ⟨.cons hstep hpast, hstride, hrest⟩

theorem Linked.step_of_mem {state last : State} {strides : List Stride} {stride : Stride}
    (h : Linked state strides last) (hmem : stride ∈ strides) :
    stride.before.step = .ok (stride.after, stride.instruction) := by
  obtain ⟨past, rest, rfl⟩ := List.append_of_mem hmem
  exact h.split.2.1

/-- What no stride changes is the same before each of them and at the end. -/
theorem Linked.field_eq {Field : Type} {state last : State} {strides : List Stride}
    (h : Linked state strides last) (field : State → Field)
    (hkept : ∀ stride ∈ strides, field stride.after = field stride.before) :
    (∀ stride ∈ strides, field stride.before = field state) ∧ field last = field state := by
  induction h with
  | nil state => exact ⟨by simp, rfl⟩
  | cons hstep rest ih =>
      rw [List.forall_mem_cons] at hkept
      obtain ⟨hbefore, hlast⟩ := ih hkept.2
      refine ⟨?_, hlast.trans hkept.1⟩
      rw [List.forall_mem_cons]
      exact ⟨rfl, fun stride hmem => (hbefore stride hmem).trans hkept.1⟩

theorem State.linked_walk (state : State) :
    Linked state state.walk.strides state.walk.last := by
  induction state using State.walk_induction with
  | spent state hbudget =>
      rw [State.walk_of_spent hbudget]
      exact .nil state
  | refused state fault hbudget hstep =>
      rw [State.walk_of_error hbudget hstep]
      exact .nil state
  | taken state next instruction hbudget hstep ih =>
      rw [State.walk_of_ok hbudget hstep]
      exact .cons hstep ih

end Chip8
