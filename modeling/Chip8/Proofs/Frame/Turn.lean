import Chip8.Proofs.Frame.Simulation

/-!
# Frames one after another

A host runs one frame after another, each from the state in which the one before it
ended.  A `Turn` is one of these frames: where it begins and which keys are held.  Its
strides are the instructions that it carries out, in order.

A turn that is not the first begins where the turn before it ended
(`State.turns_split`).
-/

namespace Chip8

/-- One of several frames. -/
structure Turn where
  /-- The state in which the frame before it ended. -/
  start : State
  keypad : UInt16

namespace Turn

variable (turn : Turn)

/-- The state in which the first instruction of the frame is looked at. -/
def opened : State := turn.start.beginFrame turn.keypad

/-- The state in which the frame ends. -/
def final : State := (turn.start.runFrame turn.keypad).1

def stats : FrameStats := (turn.start.runFrame turn.keypad).2

/-- The instructions that the frame carries out, oldest first. -/
def strides : List Stride := turn.opened.walk.strides

theorem final_eq_last : turn.final = turn.opened.walk.last := by
  rw [final, opened, State.fst_runFrame]

theorem stop_eq_none_iff : turn.stats.stop = .none ↔ turn.opened.walk.fault = none := by
  rw [stats, opened, State.stop_runFrame_eq_none_iff]

theorem instructions_eq_length : turn.stats.instructions.toInt = turn.strides.length := by
  rw [stats, strides, opened, State.toInt_instructions_runFrame]

theorem count_eq_zero_iff (op : Op) :
    turn.stats.count op = 0 ↔ ∀ stride ∈ turn.strides, stride.instruction.op ≠ op := by
  rw [← Int32.toInt_inj, stats, strides, opened, State.toInt_count_runFrame, Int32.toInt_zero,
    Int.natCast_eq_zero, List.countP_eq_zero]
  simp only [decide_eq_true_eq, ne_eq]

end Turn

namespace State

/-- The frames that are run from a state with the given keys held, one after another. -/
def turns (state : State) : List UInt16 → List Turn
  | [] => []
  | keypad :: keypads => ⟨state, keypad⟩ :: (state.runFrame keypad).1.turns keypads

/-- The state after several frames. -/
def runFrames (state : State) (keypads : List UInt16) : State :=
  keypads.foldl (fun state keypad => (state.runFrame keypad).1) state

@[simp] theorem turns_nil (state : State) : state.turns [] = [] := rfl

@[simp] theorem turns_cons (state : State) (keypad : UInt16) (keypads : List UInt16) :
    state.turns (keypad :: keypads) =
      ⟨state, keypad⟩ :: (Turn.mk state keypad).final.turns keypads := by
  rw [turns, Turn.final]

@[simp] theorem runFrames_nil (state : State) : state.runFrames [] = state := rfl

@[simp] theorem runFrames_cons (state : State) (keypad : UInt16) (keypads : List UInt16) :
    state.runFrames (keypad :: keypads) = (Turn.mk state keypad).final.runFrames keypads := by
  rw [runFrames, List.foldl_cons, Turn.final, runFrames]

theorem runFrames_append (state : State) (early late : List UInt16) :
    state.runFrames (early ++ late) = (state.runFrames early).runFrames late :=
  List.foldl_append

theorem runFrames_concat (state : State) (keypads : List UInt16) (keypad : UInt16) :
    state.runFrames (keypads ++ [keypad]) = (Turn.mk (state.runFrames keypads) keypad).final := by
  rw [runFrames_append, runFrames_cons, runFrames_nil]

theorem turns_concat (state : State) (keypads : List UInt16) (keypad : UInt16) :
    state.turns (keypads ++ [keypad]) =
      state.turns keypads ++ [⟨state.runFrames keypads, keypad⟩] := by
  induction keypads generalizing state with
  | nil => simp
  | cons first keypads ih =>
      rw [List.cons_append, turns_cons, turns_cons, runFrames_cons, ih, List.cons_append]

@[simp] theorem length_turns (state : State) (keypads : List UInt16) :
    (state.turns keypads).length = keypads.length := by
  induction keypads generalizing state with
  | nil => rfl
  | cons keypad keypads ih => rw [turns_cons, List.length_cons, List.length_cons, ih]

/-- A frame begins where those before it end, and those after it begin where it ends. -/
theorem turns_eq_append {state : State} {keypads : List UInt16} {early late : List Turn}
    {turn : Turn} (h : state.turns keypads = early ++ turn :: late) :
    ∃ first keypad rest, early = state.turns first ∧
      turn = ⟨state.runFrames first, keypad⟩ ∧ late = turn.final.turns rest := by
  induction keypads generalizing state early with
  | nil => simp at h
  | cons keypad keypads ih =>
      cases early with
      | nil =>
          simp only [turns_cons, List.nil_append, List.cons.injEq] at h
          obtain ⟨rfl, rfl⟩ := h
          exact ⟨[], keypad, keypads, rfl, rfl, rfl⟩
      | cons before early =>
          simp only [turns_cons, List.cons_append, List.cons.injEq] at h
          obtain ⟨rfl, hrest⟩ := h
          obtain ⟨first, held, rest, hearly, hturn, hlate⟩ := ih hrest
          refine ⟨keypad :: first, held, rest, ?_, ?_, hlate⟩
          · rw [turns_cons, hearly]
          · rw [runFrames_cons, hturn]

/-- The first frame begins where all of them do, and every other one where the frame
before it ended. -/
theorem turns_split {state : State} {keypads : List UInt16} {early late : List Turn}
    {turn : Turn} (h : state.turns keypads = early ++ turn :: late) :
    early = [] ∧ turn.start = state ∨
      ∃ earlier previous, early = earlier ++ [previous] ∧ turn.start = previous.final := by
  obtain ⟨first, keypad, rest, rfl, rfl, -⟩ := turns_eq_append h
  rcases List.eq_nil_or_concat first with rfl | ⟨earlier, previous, rfl⟩
  · exact Or.inl ⟨rfl, rfl⟩
  · rw [List.concat_eq_append]
    exact Or.inr ⟨_, _, turns_concat state earlier previous,
      runFrames_concat state earlier previous⟩

/-- A property that keeps every step from failing keeps all frames from failing, if
beginning a frame preserves it. -/
theorem stop_turns_eq_none {good : State → Prop}
    (hbegin : ∀ state keypad, good state → good (state.beginFrame keypad))
    (hstep : ∀ state, good state →
      ∃ next instruction, state.step = .ok (next, instruction) ∧ good next)
    {state : State} (h : good state) (keypads : List UInt16) :
    ∀ turn ∈ state.turns keypads, turn.stats.stop = .none := by
  induction keypads generalizing state with
  | nil => simp
  | cons keypad keypads ih =>
      obtain ⟨hfault, hlast⟩ := fault_walk_eq_none hstep (hbegin state keypad h)
      rw [turns_cons, List.forall_mem_cons]
      refine ⟨(Turn.stop_eq_none_iff _).mpr hfault, ih ?_⟩
      rw [Turn.final_eq_last]
      exact hlast

/-- Instructions that can be carried out where a property holds are all that frames carry
out, if steps and the beginning of a frame preserve it. -/
theorem strides_turns {good : State → Prop} {fits : Instruction → Prop}
    (hbegin : ∀ state keypad, good state → good (state.beginFrame keypad))
    (hstep : ∀ state next instruction, good state → state.step = .ok (next, instruction) →
      good next ∧ fits instruction)
    {state : State} (h : good state) (keypads : List UInt16) :
    ∀ turn ∈ state.turns keypads, ∀ stride ∈ turn.strides, fits stride.instruction := by
  have hlinked : ∀ {first last : State} {strides : List Stride}, Linked first strides last →
      good first → good last ∧ ∀ stride ∈ strides, fits stride.instruction := by
    intro first last strides hlinked
    induction hlinked with
    | nil state => exact fun hgood => ⟨hgood, by simp⟩
    | cons htaken _ ih =>
        intro hgood
        obtain ⟨hnext, hfits⟩ := hstep _ _ _ hgood htaken
        obtain ⟨hlast, hrest⟩ := ih hnext
        exact ⟨hlast, List.forall_mem_cons.mpr ⟨hfits, hrest⟩⟩
  induction keypads generalizing state with
  | nil => simp
  | cons keypad keypads ih =>
      obtain ⟨hlast, hfits⟩ :=
        hlinked (state.beginFrame keypad).linked_walk (hbegin state keypad h)
      rw [turns_cons, List.forall_mem_cons, Turn.strides, Turn.opened]
      refine ⟨hfits, ih ?_⟩
      rw [Turn.final_eq_last, Turn.opened]
      exact hlast

end State

end Chip8
