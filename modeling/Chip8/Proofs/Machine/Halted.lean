import Mathlib.Data.List.FinRange
import Chip8.Proofs.Frame.Pacing
import Chip8.Proofs.Frame.Spending
import Chip8.Proofs.Machine.Calls

/-!
# Halted machines

A frame that a fault stops leaves the instruction that failed to be looked at again.
Whether it fails depends on memory, the program counter, the index and the stack alone
(`State.step_beginFrame_eq_error_iff`), and beginning a frame changes none of them.  So
every later frame that looks at the instruction fails with the same fault.

But nobody spends what these frames are granted.  The grants add up until the budget
wraps below zero; from then on a frame looks at nothing, ends without a fault and counts
as finished, until as many grants again have brought the budget back.

## Strategy

`Stalled` says what a number of frames leave of a halted machine; one more frame leaves
it stalled (`Stalled.frame`), and by induction so do many (`Stalled.run`).  Whether the
next frame fails is then a matter of the sign of its budget (`Stalled.failure`), which is
known from the number of frames.
-/

namespace Chip8

open Layout

namespace State

variable {state : State} {fault : Fault}

/-- Beginning a frame does not make an instruction fail, nor keeps it from failing. -/
theorem step_beginFrame_eq_error_iff (keypad : UInt16) :
    (state.beginFrame keypad).step = .error fault ↔ state.step = .error fault := by
  rw [step_eq_error_iff, step_eq_error_iff]
  rfl

/-- From where a step fails a frame carries nothing out, and it meets the fault if it has
budget. -/
theorem walk_beginFrame_of_error (h : state.step = .error fault) (keypad : UInt16) :
    let opened := state.beginFrame keypad
    opened.walk = ⟨[], opened, if 0 < opened.budget then some fault else none⟩ := by
  intro opened
  have hopened : opened.step = .error fault := (step_beginFrame_eq_error_iff keypad).mpr h
  by_cases hbudget : 0 < opened.budget
  · rw [walk_of_error hbudget hopened, if_pos hbudget]
  · rw [walk_of_spent hbudget, if_neg hbudget]

end State

namespace Machine

/-- The budget after frames that spend nothing, if it did not wrap. -/
def granted (machine : Machine) (frames : Nat) : Int :=
  machine.state.budget.toInt + 16666 * frames

theorem granted_succ (machine : Machine) (frames : Nat) :
    machine.granted (frames + 1) = machine.granted frames + frameBudget := by
  rw [grant_eq]
  unfold granted
  omega

/-- A machine that has been run for a number of frames from where it had halted. -/
structure Stalled (halted : Machine) (frames : Nat) (machine : Machine) : Prop where
  steady : machine.Steady
  state : machine.state = { halted.state with
    keypad := machine.state.keypad
    delayTimer := machine.state.delayTimer
    soundTimer := machine.state.soundTimer
    tone := machine.state.tone
    budget := machine.state.budget }
  budget : machine.state.budget.toInt ≡ halted.granted frames [ZMOD 2 ^ 32]
  instructions : machine.instructions = halted.instructions
  /-- As long as the grants fit into the budget, no frame is counted. -/
  frames : 0 < halted.state.budget.toInt → halted.granted frames < 2 ^ 31 →
    machine.frames = halted.frames

namespace Stalled

variable {halted machine : Machine} {frames : Nat} {fault : Fault}

theorem refl (h : machine.Steady) : Stalled machine 0 machine :=
  ⟨h, rfl, by simp [granted], rfl, fun _ _ => rfl⟩

theorem step_eq_error (h : Stalled halted frames machine)
    (hhalted : halted.state.step = .error fault) : machine.state.step = .error fault := by
  rw [State.step_eq_error_iff] at hhalted ⊢
  rw [h.state]
  exact hhalted

/-- Whether a frame fails is a matter of its budget, and only a frame that does not is
counted. -/
theorem failure (h : Stalled halted frames machine)
    (hhalted : halted.state.step = .error fault) (keypad : UInt16) :
    (machine.runMask keypad).2 =
        (if 0 < (machine.state.beginFrame keypad).budget then some (.fault fault) else none) ∧
      (machine.runMask keypad).1.frames = machine.frames +
        if 0 < (machine.state.beginFrame keypad).budget then 0 else 1 := by
  rw [h.steady.failure_runMask, h.steady.frames_runMask,
    State.walk_beginFrame_of_error (h.step_eq_error hhalted)]
  by_cases hbudget : 0 < (machine.state.beginFrame keypad).budget
  · simp [hbudget]
  · simp [hbudget]

theorem budget_beginFrame (h : Stalled halted frames machine) (keypad : UInt16) :
    (machine.state.beginFrame keypad).budget.toInt ≡ halted.granted (frames + 1)
      [ZMOD 2 ^ 32] := by
  have hgrant := machine.state.budget_beginFrame_modEq keypad
  rw [granted_succ]
  exact hgrant.trans (h.budget.add_right _)

theorem budget_beginFrame_pos (h : Stalled halted frames machine) (keypad : UInt16)
    (hpositive : 0 < halted.state.budget.toInt) (hfits : halted.granted (frames + 1) < 2 ^ 31) :
    0 < (machine.state.beginFrame keypad).budget := by
  have hgranted : 0 < halted.granted (frames + 1) := by
    unfold granted
    omega
  rw [State.budget_pos_iff, toInt_eq_of_modEq (h.budget_beginFrame keypad) (by omega) hfits]
  exact hgranted

theorem frame (h : Stalled halted frames machine)
    (hhalted : halted.state.step = .error fault) (keypad : UInt16) :
    Stalled halted (frames + 1) (machine.runMask keypad).1 := by
  have hwalk := State.walk_beginFrame_of_error (h.step_eq_error hhalted) keypad
  -- Whether or not the fault is met, the frame ends where it began.
  have hstate : (machine.runMask keypad).1.state = machine.state.beginFrame keypad := by
    rw [h.steady.state_runMask, hwalk]
  refine ⟨h.steady.runMask keypad, ?_, ?_, ?_, ?_⟩
  · rw [hstate, State.beginFrame, h.state]
  · rw [hstate]
    exact h.budget_beginFrame keypad
  · rw [h.steady.instructions_runMask, hwalk, h.instructions]
    exact Int.add_zero _
  · intro hpositive hfits
    have hbudget := h.budget_beginFrame_pos keypad hpositive hfits
    rw [granted_succ] at hfits
    rw [(h.failure hhalted keypad).2, if_pos hbudget]
    exact h.frames hpositive (by omega)

theorem run (h : Stalled halted frames machine)
    (hhalted : halted.state.step = .error fault) {masks : List Mask}
    (hmasks : ∀ mask ∈ masks, ∃ keypad, mask.toKeypad = .ok keypad) :
    Stalled halted (frames + masks.length) (machine.run (masks.map .frame)) := by
  induction masks generalizing machine frames with
  | nil => exact h
  | cons mask masks ih =>
      rw [List.forall_mem_cons] at hmasks
      obtain ⟨⟨keypad, hmask⟩, hrest⟩ := hmasks
      have hall := ih (h.frame hhalted keypad) hrest
      rw [List.map_cons, run_cons, machine.answer_of_mask hmask, List.length_cons,
        Nat.add_comm masks.length, ← Nat.add_assoc]
      exact hall

end Stalled

/-- A frame that a fault stopped leaves a machine halted: the next step fails with the
same fault, and budget is left. -/
theorem halted_of_runFrame {machine : Machine} (hsteady : machine.Steady) {mask : Mask}
    {fault : Fault} (h : (machine.runFrame mask).2 = some (.fault fault)) :
    let halted := (machine.runFrame mask).1
    halted.Steady ∧ halted.state.step = .error fault ∧ 0 < halted.state.budget.toInt := by
  cases hmask : mask.toKeypad with
  | error failure =>
      -- A mask that is refused fails too, but not with a fault.
      rw [runFrame_of_error machine hmask, Option.some.injEq] at h
      rw [h] at hmask
      exact absurd hmask (Mask.toKeypad_ne_fault mask fault)
  | ok keypad =>
      rw [runFrame_of_mask machine hmask] at h ⊢
      have hwalk : (machine.state.beginFrame keypad).walk.fault = some fault := by
        rw [hsteady.failure_runMask] at h
        cases hfault : (machine.state.beginFrame keypad).walk.fault with
        | none => simp [hfault] at h
        | some found =>
            rw [hfault, Option.map_some, Option.some.injEq, Failure.fault.injEq] at h
            rw [h]
      refine ⟨hsteady.runMask keypad, ?_, ?_⟩
      · rw [hsteady.state_runMask]
        exact State.step_last_of_fault hwalk
      · rw [hsteady.state_runMask, ← State.budget_pos_iff]
        exact State.budget_pos_of_fault hwalk

end Machine

/-- After a frame that a fault stopped, frames change nothing but the latched keys, the
timers, the tone and the budget, whatever keys are held, and carry nothing out.

While all that was granted fits into the budget, every frame fails with the same fault and
none is counted.  Once it no longer fits, frames look at nothing: they come through and
are counted, until the grants have gone all the way round. -/
theorem halted_until_grants_wrap {machine : Machine} (hsteady : machine.Steady)
    {mask : Mask} {fault : Fault} (h : (machine.runFrame mask).2 = some (.fault fault))
    {masks : List Mask} (hmasks : ∀ mask ∈ masks, ∃ keypad, mask.toKeypad = .ok keypad)
    {next : Mask} (hnext : ∃ keypad, next.toKeypad = .ok keypad) :
    let halted := (machine.runFrame mask).1
    let last := halted.run (masks.map .frame)
    let granted := halted.state.budget.toInt + 16666 * (masks.length + 1)
    last.state = { halted.state with
      keypad := last.state.keypad
      delayTimer := last.state.delayTimer
      soundTimer := last.state.soundTimer
      tone := last.state.tone
      budget := last.state.budget } ∧
    last.instructions = halted.instructions ∧
    (granted < 2 ^ 31 + 16666 → last.frames = halted.frames) ∧
    (granted < 2 ^ 31 →
      (last.runFrame next).2 = some (.fault fault) ∧
      (last.runFrame next).1.frames = last.frames) ∧
    (2 ^ 31 ≤ granted → granted < 2 ^ 32 →
      (last.runFrame next).2 = none ∧ (last.runFrame next).1.frames = last.frames + 1) := by
  intro halted last granted
  obtain ⟨hhalted, hstep, hpositive⟩ := Machine.halted_of_runFrame hsteady h
  obtain ⟨keypad, hkeypad⟩ := hnext
  have stalled : Machine.Stalled halted masks.length last := by
    have hrun := (Machine.Stalled.refl hhalted).run hstep hmasks
    rwa [Nat.zero_add] at hrun
  have houtcome := stalled.failure hstep keypad
  have hgranted : halted.granted (masks.length + 1) = granted := rfl
  have hbudget := stalled.budget_beginFrame keypad
  rw [hgranted] at hbudget
  rw [Machine.runFrame_of_mask last hkeypad]
  refine ⟨stalled.state, stalled.instructions, ?_, ?_, ?_⟩
  · intro hfits
    rw [Machine.granted_succ, grant_eq] at hgranted
    exact stalled.frames hpositive (by omega)
  · intro hfits
    have hleft := stalled.budget_beginFrame_pos keypad hpositive hfits
    rw [if_pos hleft, if_pos hleft] at houtcome
    exact houtcome
  · intro hlow hhigh
    have hspent : ¬0 < (last.state.beginFrame keypad).budget := by
      rw [State.budget_pos_iff, toInt_eq_of_wrapped hbudget hlow hhigh]
      omega
    rw [if_neg hspent, if_neg hspent] at houtcome
    exact houtcome

/-! ### A machine that comes back -/

/-- A machine with a program whose first word is no instruction. -/
def deadEnd : Machine :=
  (Machine.fresh (.ofSeed 0) plainConsole [] (.real 0)).run [.load (.ofBytes [0xFF, 0xFF])]

theorem steady_deadEnd : deadEnd.Steady := by
  have hfresh := Machine.steady_fresh steady_plainConsole
    (List.forall_mem_nil Observer.Steady) (.ofSeed 0) 0
  exact hfresh.answer (.load (.ofBytes [0xFF, 0xFF]))

theorem state_deadEnd :
    deadEnd.state = { State.ofSeed 0 with
      memory := Bank.writeAll State.blankMemory [(0x200, 0xFF), (0x201, 0xFF)] } := by
  rfl

theorem bytes_deadEnd :
    deadEnd.state.memory[0x200] = 0xFF ∧ deadEnd.state.memory[0x201] = 0xFF := by
  rw [state_deadEnd]
  decide +kernel

theorem step_deadEnd : deadEnd.state.step = .error (.invalidOp 0xFF 0xFF) := by
  have hpc : deadEnd.state.pc.toNat = 0x200 := by
    rw [state_deadEnd]
    rfl
  have hfetch : deadEnd.state.fetch = .ok 0xFFFF :=
    State.fetch_at hpc (by decide) bytes_deadEnd.1 bytes_deadEnd.2
  have hdecode : decode (0xFFFF : UInt16).toNat = .error (.invalidOp 0xFF 0xFF) := by
    decide
  simp only [State.step_eq_error_iff, hfetch, bind, Except.bind, hdecode]

/-- A frame of it fails and leaves all that it was granted. -/
theorem runFrame_deadEnd :
    (deadEnd.runFrame (.integer 0)).2 = some (.fault (.invalidOp 0xFF 0xFF)) ∧
      (deadEnd.runFrame (.integer 0)).1.frames = 0 ∧
      (deadEnd.runFrame (.integer 0)).1.state.budget.toInt = 16666 := by
  have hmask : (Mask.integer 0).toKeypad = .ok 0 := rfl
  have hbudget : (deadEnd.state.beginFrame 0).budget = 16666 := by
    rw [State.beginFrame, state_deadEnd]
    rfl
  have hleft : 0 < (deadEnd.state.beginFrame 0).budget := by
    rw [hbudget]
    decide
  have hwalk : (deadEnd.state.beginFrame 0).walk =
      ⟨[], deadEnd.state.beginFrame 0, some (.invalidOp 0xFF 0xFF)⟩ := by
    rw [State.walk_beginFrame_of_error step_deadEnd, if_pos hleft]
  rw [Machine.runFrame_of_mask _ hmask, steady_deadEnd.failure_runMask,
    steady_deadEnd.frames_runMask, steady_deadEnd.state_runMask, hwalk]
  refine ⟨rfl, rfl, ?_⟩
  rw [hbudget]
  rfl

/-- It fails 128854 times over, and then a frame comes through and is counted. -/
theorem halted_until_grants_wrap_deadEnd :
    let halted := (deadEnd.runFrame (.integer 0)).1
    let last := halted.run ((List.replicate 128853 (.integer 0)).map .frame)
    deadEnd.Steady ∧
    (deadEnd.runFrame (.integer 0)).2 = some (.fault (.invalidOp 0xFF 0xFF)) ∧
    last.frames = 0 ∧
    (last.runFrame (.integer 0)).2 = none ∧ (last.runFrame (.integer 0)).1.frames = 1 := by
  -- Named, so that nobody counts the masks one by one.
  generalize hreplicate : List.replicate 128853 (Mask.integer 0) = masks
  dsimp only
  have hlength : masks.length = 128853 := by rw [← hreplicate, List.length_replicate]
  have hnext : ∃ keypad, (Mask.integer 0).toKeypad = .ok keypad := ⟨0, rfl⟩
  have hmasks : ∀ mask ∈ masks, ∃ keypad, mask.toKeypad = .ok keypad := by
    intro mask hmem
    rw [← hreplicate] at hmem
    rw [List.eq_of_mem_replicate hmem]
    exact hnext
  obtain ⟨hfailure, hframes, hbudget⟩ := runFrame_deadEnd
  obtain ⟨-, -, hsame, -, hback⟩ :=
    halted_until_grants_wrap steady_deadEnd hfailure hmasks hnext
  rw [hbudget, hlength] at hsame hback
  have hzero := (hsame (by omega)).trans hframes
  obtain ⟨hfine, hcounted⟩ := hback (by omega) (by omega)
  exact ⟨steady_deadEnd, hfailure, hzero, hfine, by rw [hcounted, hzero]⟩

end Chip8
