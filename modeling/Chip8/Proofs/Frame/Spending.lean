import Mathlib.Algebra.BigOperators.Group.List.Basic
import Mathlib.Data.Int.ModEq
import Mathlib.Tactic.Ring
import Chip8.Proofs.Frame.Simulation

/-!
# What frames spend

Every instruction costs some time, and what instructions cost together is a sum
(`spent`).  The budget and the time that a frame reports have 32 bits and wrap.  Modulo
2 ^ 32 they still add up: beginning a frame grants its time, what a frame reports is what
its instructions cost, and the budget loses exactly that.  Within its bounds a time is
known from what it is congruent to (`toInt_eq_of_modEq`, `toInt_eq_of_wrapped`); beyond
them it shows less than it is (`toInt_le_of_modEq`).
-/

namespace Chip8

open Layout

/-! ### Costs -/

/-- What an instruction cost, in microseconds. -/
def Stride.cost (stride : Stride) : Int := stride.instruction.op.cost.toInt

/-- What several instructions cost together. -/
def spent (strides : List Stride) : Int := (strides.map Stride.cost).sum

@[simp] theorem spent_nil : spent [] = 0 := rfl

@[simp] theorem spent_cons (stride : Stride) (strides : List Stride) :
    spent (stride :: strides) = stride.cost + spent strides := rfl

@[simp] theorem spent_append (first second : List Stride) :
    spent (first ++ second) = spent first + spent second := by
  simp only [spent, List.map_append, List.sum_append]

theorem Stride.cost_bounds (stride : Stride) : 27 ≤ stride.cost ∧ stride.cost ≤ 22734 :=
  ⟨stride.instruction.op.le_toInt_cost, stride.instruction.op.toInt_cost_le⟩

theorem spent_nonneg (strides : List Stride) : 0 ≤ spent strides := by
  induction strides with
  | nil => exact Int.le_refl 0
  | cons stride strides ih =>
      have hcost := stride.cost_bounds.1
      rw [spent_cons]
      omega

/-! ### Times modulo 2 ^ 32 -/

theorem toInt_add_modEq (first second : Int32) :
    (first + second).toInt ≡ first.toInt + second.toInt [ZMOD 2 ^ 32] := by
  rw [Int32.toInt_add]
  exact Int.bmod_emod

theorem toInt_sub_modEq (first second : Int32) :
    (first - second).toInt ≡ first.toInt - second.toInt [ZMOD 2 ^ 32] := by
  rw [Int32.toInt_sub]
  exact Int.bmod_emod

/-- A time that fits is kept as it is. -/
theorem toInt_eq_of_modEq {time : Int32} {value : Int} (h : time.toInt ≡ value [ZMOD 2 ^ 32])
    (hlow : -2 ^ 31 ≤ value) (hhigh : value < 2 ^ 31) : time.toInt = value := by
  have hle := time.le_toInt
  have hlt := time.toInt_lt
  unfold Int.ModEq at h
  omega

/-- A time that wraps shows less than it is. -/
theorem toInt_le_of_modEq {time : Int32} {value : Int} (h : time.toInt ≡ value [ZMOD 2 ^ 32])
    (hlow : -2 ^ 31 ≤ value) : time.toInt ≤ value := by
  have hlt := time.toInt_lt
  unfold Int.ModEq at h
  omega

/-- A time that is too large for its bits wraps once. -/
theorem toInt_eq_of_wrapped {time : Int32} {value : Int} (h : time.toInt ≡ value [ZMOD 2 ^ 32])
    (hlow : 2 ^ 31 ≤ value) (hhigh : value < 2 ^ 32) : time.toInt = value - 2 ^ 32 := by
  have hle := time.le_toInt
  have hlt := time.toInt_lt
  unfold Int.ModEq at h
  omega

/-- What strides cost, added up in 32 bits. -/
theorem toInt_sum_cost_modEq (strides : List Stride) :
    (strides.map fun stride : Stride => stride.instruction.cost).sum.toInt ≡ spent strides
      [ZMOD 2 ^ 32] := by
  induction strides with
  | nil => rfl
  | cons stride strides ih =>
      rw [List.map_cons, List.sum_cons, spent_cons]
      have hadd := toInt_add_modEq stride.instruction.cost
        (strides.map fun stride => stride.instruction.cost).sum
      exact hadd.trans (Int.ModEq.add_left _ ih)

namespace State

variable (state : State) (keypad : UInt16)

theorem budget_beginFrame_modEq :
    (state.beginFrame keypad).budget.toInt ≡ state.budget.toInt + frameBudget [ZMOD 2 ^ 32] :=
  toInt_add_modEq _ _

theorem elapsed_runFrame_modEq :
    (state.runFrame keypad).2.elapsed.toInt ≡ spent (state.beginFrame keypad).walk.strides
      [ZMOD 2 ^ 32] := by
  rw [elapsed_runFrame]
  exact toInt_sum_cost_modEq _

/-- A frame adds what it grants to the budget and takes off what it spends. -/
theorem budget_last_walk_modEq :
    (state.beginFrame keypad).walk.last.budget.toInt ≡
      state.budget.toInt + frameBudget - (state.runFrame keypad).2.elapsed.toInt
      [ZMOD 2 ^ 32] := by
  rw [← fst_runFrame, budget_runFrame]
  exact (toInt_sub_modEq _ _).trans ((state.budget_beginFrame_modEq keypad).sub_right _)

end State

end Chip8
