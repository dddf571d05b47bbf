import Chip8.Proofs.Execute.Locality
import Chip8.Proofs.Frame.Turn

/-!
# Timers and tone

Both timers count down once a frame, when the frame begins, and stop at zero.  That goes
for idle frames and for frames that a fault stops, too.  Apart from it a timer changes only
by the instruction that sets it (`Timer.setter`).  The tone is decided when a frame begins,
by whether the sound timer was running.

So after frames that do not set a timer it is as many frames lower
(`State.toNat_timer_runFrames`), and a sound timer of `s` sounds for exactly the `s` frames
that follow (`State.tone_turns`).  After a frame that sets a timer it is what the last
instruction to do so has put there (`Linked.timer_lastSet`).
-/

namespace Chip8

/-- The two timers. -/
inductive Timer where
  | delay
  | sound

/-- The operation that sets a timer. -/
def Timer.setter : Timer → Op
  | .delay => .ldDtVx
  | .sound => .ldStVx

/-- The last of some instructions to set a timer has put a value there. -/
def Timer.LastSet (timer : Timer) (strides : List Stride) (value : UInt8) : Prop :=
  ∃ early stride late, strides = early ++ stride :: late ∧
    stride.instruction.op = timer.setter ∧
    (∀ later ∈ late, later.instruction.op ≠ timer.setter) ∧
    value = stride.before.register stride.instruction.x

namespace State

/-- The value of a timer. -/
def timer (state : State) : Timer → UInt8
  | .delay => state.delayTimer
  | .sound => state.soundTimer

@[simp] theorem timer_sound (state : State) : state.timer .sound = state.soundTimer := rfl

variable {state next : State} {instruction : Instruction} (timer : Timer)

/-- Beginning a frame takes one off a timer that is running. -/
theorem toNat_timer_beginFrame (state : State) (keypad : UInt16) :
    ((state.beginFrame keypad).timer timer).toNat = (state.timer timer).toNat - 1 := by
  have htick (value : UInt8) : (if value = 0 then 0 else value - 1).toNat = value.toNat - 1 := by
    split
    case isTrue hzero => rw [hzero]; rfl
    case isFalse hrunning =>
      have hpositive : 1 ≤ value.toNat :=
        Nat.one_le_iff_ne_zero.mpr fun h => hrunning (UInt8.toNat_inj.mp h)
      exact UInt8.toNat_sub_of_le _ _ hpositive
  cases timer with
  | delay => exact htick state.delayTimer
  | sound => exact htick state.soundTimer

/-- Only its setter changes a timer. -/
theorem timer_step (h : state.step = .ok (next, instruction)) :
    next.timer timer =
      if instruction.op = timer.setter then state.register instruction.x
      else state.timer timer := by
  obtain ⟨_, _, _, _, rfl⟩ := step_eq_ok h
  cases timer with
  | delay => exact Execute.delayTimer_execute _ _ _
  | sound => exact Execute.soundTimer_execute _ _ _

end State

namespace Linked

variable {state last : State} {strides : List Stride} {timer : Timer}

/-- Instructions that do not set a timer leave it alone. -/
theorem timer_eq (h : Linked state strides last)
    (hfree : ∀ stride ∈ strides, stride.instruction.op ≠ timer.setter) :
    last.timer timer = state.timer timer := by
  refine (h.field_eq (fun state => state.timer timer) ?_).2
  intro stride hmem
  rw [State.timer_step timer (h.step_of_mem hmem), if_neg (hfree stride hmem)]

/-- After instructions that set a timer it is what the last of these has put there. -/
theorem timer_lastSet (h : Linked state strides last)
    (hset : ∃ stride ∈ strides, stride.instruction.op = timer.setter) :
    timer.LastSet strides (last.timer timer) := by
  induction h with
  | nil state => simp at hset
  | @cons state next last instruction strides hstep hrest ih =>
      by_cases hlater : ∃ stride ∈ strides, stride.instruction.op = timer.setter
      · obtain ⟨early, stride, late, rfl, hlast⟩ := ih hlater
        exact ⟨⟨state, instruction, next⟩ :: early, stride, late, rfl, hlast⟩
      · -- None of the others sets the timer, so the first one does.
        have hfree : ∀ stride ∈ strides, stride.instruction.op ≠ timer.setter :=
          fun stride hmem hop => hlater ⟨stride, hmem, hop⟩
        have hfirst : instruction.op = timer.setter := by
          obtain ⟨stride, hmem, hop⟩ := hset
          rcases List.mem_cons.mp hmem with rfl | hmem
          · exact hop
          · exact absurd hop (hfree stride hmem)
        refine ⟨[], _, strides, rfl, hfirst, hfree, ?_⟩
        rw [hrest.timer_eq hfree, State.timer_step timer hstep, if_pos hfirst]

end Linked

/-! ### One frame -/

namespace Turn

variable {turn : Turn} {timer : Timer}

/-- A frame carries out an instruction that sets a timer. -/
def Sets (turn : Turn) (timer : Timer) : Prop :=
  ∃ stride ∈ turn.strides, stride.instruction.op = timer.setter

/-- The statistics of a frame tell whether it sets a timer. -/
theorem sets_iff : turn.Sets timer ↔ 0 < (turn.stats.count timer.setter).toInt := by
  rw [Sets, strides, opened, stats, State.toInt_count_runFrame, Int.natCast_pos,
    List.countP_pos_iff]
  simp only [decide_eq_true_eq]

theorem linked_strides (turn : Turn) : Linked turn.opened turn.strides turn.final := by
  rw [final_eq_last, strides]
  exact turn.opened.linked_walk

theorem toNat_timer_final (h : ¬turn.Sets timer) :
    (turn.final.timer timer).toNat = (turn.start.timer timer).toNat - 1 := by
  have hfree : ∀ stride ∈ turn.strides, stride.instruction.op ≠ timer.setter :=
    fun stride hmem hop => h ⟨stride, hmem, hop⟩
  rw [turn.linked_strides.timer_eq hfree]
  exact State.toNat_timer_beginFrame timer _ _

/-- Whether a frame sounds was decided when it began. -/
theorem tone_final (turn : Turn) : turn.final.tone = (turn.start.soundTimer != 0) :=
  turn.linked_strides.latches.2.2

theorem tone_final_iff (turn : Turn) :
    turn.final.tone = true ↔ 1 ≤ turn.start.soundTimer.toNat := by
  rw [tone_final, bne_iff_ne, ne_eq, ← UInt8.toNat_inj, Nat.one_le_iff_ne_zero]
  rfl

end Turn

/-! ### Several frames -/

namespace State

variable {state : State} {keypads : List UInt16}

theorem toNat_timer_runFrames {timer : Timer}
    (hfree : ∀ turn ∈ state.turns keypads, ¬turn.Sets timer) :
    ((state.runFrames keypads).timer timer).toNat =
      (state.timer timer).toNat - keypads.length := by
  induction keypads generalizing state with
  | nil => rfl
  | cons keypad keypads ih =>
      rw [turns_cons, List.forall_mem_cons] at hfree
      have hfirst : ((Turn.mk state keypad).final.timer timer).toNat =
          (state.timer timer).toNat - 1 := Turn.toNat_timer_final hfree.1
      rw [runFrames_cons, ih hfree.2, hfirst, List.length_cons]
      omega

theorem tone_turns (hfree : ∀ turn ∈ state.turns keypads, ¬turn.Sets .sound)
    {early late : List Turn} {turn : Turn} (h : state.turns keypads = early ++ turn :: late) :
    turn.final.tone = true ↔ early.length + 1 ≤ state.soundTimer.toNat := by
  obtain ⟨first, keypad, -, rfl, rfl, -⟩ := turns_eq_append h
  have hfirst : ∀ turn ∈ state.turns first, ¬turn.Sets .sound := by
    intro turn hmem
    apply hfree turn
    rw [h]
    exact List.mem_append_left _ hmem
  have hstart := toNat_timer_runFrames hfirst
  rw [timer_sound, timer_sound] at hstart
  rw [Turn.tone_final_iff, length_turns, hstart]
  omega

end State

/-- Timers follow the frames.  Frames that do not set a timer count it down to zero, and if
they do not set the sound timer, as many of them sound as it said: counted from the first
of them, or from any frame that has put a value there.  A frame that sets a timer ends with
what the last instruction to do so has put there.  Whatever a frame does, its tone tells
whether the sound timer was running when it began. -/
theorem timers_follow_frames (state : State) (keypads : List UInt16) :
    let turns := state.turns keypads
    (∀ timer, (∀ turn ∈ turns, ¬turn.Sets timer) →
      (((state.runFrames keypads).timer timer).toNat : Int) =
        max ((state.timer timer).toNat - keypads.length) 0) ∧
    ((∀ turn ∈ turns, ¬turn.Sets .sound) →
      ∀ early turn late, turns = early ++ turn :: late →
        (turn.final.tone = true ↔ early.length + 1 ≤ state.soundTimer.toNat)) ∧
    ∀ early turn late, turns = early ++ turn :: late →
      (∀ timer, turn.Sets timer ↔ 0 < (turn.stats.count timer.setter).toInt) ∧
      (∀ timer, turn.Sets timer → timer.LastSet turn.strides (turn.final.timer timer)) ∧
      turn.final.tone = (turn.start.soundTimer != 0) ∧
      ((∀ later ∈ late, ¬later.Sets .sound) →
        ∀ between later rest, late = between ++ later :: rest →
          (later.final.tone = true ↔ between.length + 1 ≤ turn.final.soundTimer.toNat)) := by
  intro turns
  refine ⟨?_, ?_, ?_⟩
  · intro timer hfree
    have hcount := State.toNat_timer_runFrames hfree
    omega
  · intro hfree early turn late hturns
    exact State.tone_turns hfree hturns
  · intro early turn late hturns
    refine ⟨fun timer => turn.sets_iff, ?_, turn.tone_final, ?_⟩
    · intro timer hset
      exact turn.linked_strides.timer_lastSet hset
    · obtain ⟨_, _, rest, -, -, rfl⟩ := State.turns_eq_append hturns
      intro hfree between later rest hlate
      exact State.tone_turns hfree hlate

end Chip8
