import Chip8.Proofs.Frame.Lockstep
import Chip8.Proofs.Frame.Timers

/-!
# What the sound can influence

Nothing reads the sound timer but the beginning of a frame, which derives the tone from it,
and nothing reads the tone.  So two states that differ in these two alone run the same, frame
by frame (`lockstep_sound`).

The differences do not last beyond an instruction that sets the sound timer.  It gives both
states one timer, and from there on they differ in the tone at most
(`State.AlikeButSound.alikeButTone_walk`); the next frame derives one tone for both, and then
nothing is different any more (`State.AlikeButTone.runFrames_eq`).
-/

namespace Chip8

namespace State

variable {first second : State}

/-- Two states that differ in the sound timer and the tone at most. -/
def AlikeButSound (first second : State) : Prop :=
  second = { first with soundTimer := second.soundTimer, tone := second.tone }

/-- Two states that differ in the tone at most. -/
def AlikeButTone (first second : State) : Prop := second = { first with tone := second.tone }

theorem AlikeButTone.alikeButSound (h : first.AlikeButTone second) :
    first.AlikeButSound second := by
  unfold AlikeButSound
  rw [h]

theorem AlikeButSound.alikeButTone (h : first.AlikeButSound second)
    (htimer : second.soundTimer = first.soundTimer) : first.AlikeButTone second := by
  unfold AlikeButTone
  rw [h, htimer]

end State

namespace Execute

theorem execute_sound (beyond : Overrun) (instruction : Instruction) (state : State)
    (soundTimer : UInt8) (tone : Bool) :
    execute beyond instruction { state with soundTimer, tone } =
      { execute beyond instruction state with
        soundTimer :=
          if instruction.op = .ldStVx then state.register instruction.x else soundTimer
        tone } := by
  unfold execute
  cases instruction.op
  case ldVxK =>
    simp only [awaitKey]
    cases Keypad.lowestHeld? state.keypad <;> rfl
  all_goals rfl

end Execute

theorem lockstep_sound : Lockstep State.AlikeButSound Eq fun _ => True where
  course := by
    intro first second halike
    rw [halike]
    exact ⟨rfl, rfl, rfl, rfl, rfl⟩
  beginFrame := by
    rintro first second held _ halike rfl
    rw [halike]
    rfl
  execute := by
    intro first second instruction halike _
    have hexecute : second.execute instruction =
        { first.execute instruction with
          soundTimer :=
            if instruction.op = .ldStVx then first.register instruction.x else second.soundTimer
          tone := second.tone } := by
      rw [halike]
      exact Execute.execute_sound first.clamp instruction first second.soundTimer second.tone
    show (second.execute instruction).charge instruction.cost = _
    rw [hexecute]
    rfl

/-- What leaves the sound timers apart is that neither was set. -/
theorem lockstep_tone : Lockstep State.AlikeButTone Eq fun _ => True where
  course h := lockstep_sound.course h.alikeButSound
  beginFrame := by
    rintro first second held _ halike rfl
    rw [halike]
    rfl
  execute := by
    intro first second instruction halike hfree
    apply (lockstep_sound.execute instruction halike.alikeButSound hfree).alikeButTone
    have hregisters : second.register instruction.x = first.register instruction.x := by
      rw [halike]
      rfl
    have htimers : second.soundTimer = first.soundTimer := by rw [halike]
    calc (second.execute instruction).soundTimer
        = if instruction.op = .ldStVx then second.register instruction.x
          else second.soundTimer := Execute.soundTimer_execute _ _ _
      _ = if instruction.op = .ldStVx then first.register instruction.x
          else first.soundTimer := by rw [hregisters, htimers]
      _ = (first.execute instruction).soundTimer := (Execute.soundTimer_execute _ _ _).symm

namespace State

variable {first second : State}

/-- An instruction that sets the sound timer leaves no more than the tones apart. -/
theorem AlikeButSound.alikeButTone_walk (h : first.AlikeButSound second)
    (hset : ∃ stride ∈ first.walk.strides, stride.instruction.op = .ldStVx) :
    first.walk.last.AlikeButTone second.walk.last := by
  induction first using walk_induction generalizing second with
  | spent first hbudget => simp [walk_of_spent hbudget] at hset
  | refused first fault hbudget hstep => simp [walk_of_error hbudget hstep] at hset
  | taken first next instruction hbudget hstep ih =>
      obtain ⟨other, hother, hnext⟩ := lockstep_sound.step h hstep trivial
      have hleft : 0 < second.budget := by
        rw [(lockstep_sound.course h).budget]
        exact hbudget
      rw [walk_of_ok hbudget hstep, List.exists_mem_cons_iff] at hset
      rw [walk_of_ok hbudget hstep, walk_of_ok hleft hother]
      rcases hset with hop | hlater
      · -- Both timers are set from one register.
        have htimer : next.soundTimer = first.register instruction.x :=
          (timer_step .sound hstep).trans (if_pos hop)
        have htimer' : other.soundTimer = second.register instruction.x :=
          (timer_step .sound hother).trans (if_pos hop)
        have hregister : second.register instruction.x = first.register instruction.x := by
          rw [h]
          rfl
        refine lockstep_tone.walk (hnext.alikeButTone ?_) fun _ _ => trivial
        rw [htimer', hregister, htimer]
      · exact ih hnext hlater

/-- With one sound timer the next frame derives one tone. -/
theorem AlikeButTone.runFrames_eq (h : first.AlikeButTone second) {keypads : List UInt16}
    (hne : keypads ≠ []) : second.runFrames keypads = first.runFrames keypads := by
  cases keypads with
  | nil => contradiction
  | cons keypad keypads =>
      have hopened : second.beginFrame keypad = first.beginFrame keypad := by
        rw [h]
        rfl
      rw [runFrames_cons, runFrames_cons, Turn.final_eq_last, Turn.final_eq_last, Turn.opened,
        Turn.opened, hopened]

end State

/-- Sound never influences what is carried out.  From two states that differ in the sound
timer and the tone at most, the same frames are run.  After each of them the states differ in
these at most, and the statistics of the frame are the same.

Once a frame has carried out an instruction that sets the sound timer, both timers are the
same from there on; and from the frame after it on, the tones are, so that nothing is
different any more. -/
theorem sound_never_matters {first second : State} (h : first.AlikeButSound second) :
    (∀ keypads, List.Forall₂
      (fun turn other =>
        other.final = { turn.final with
          soundTimer := other.final.soundTimer
          tone := other.final.tone } ∧
        other.stats = turn.stats)
      (first.turns keypads) (second.turns keypads)) ∧
    ∀ early keypad late, (Turn.mk (first.runFrames early) keypad).Sets .sound →
      let keypads := early ++ keypad :: late
      (second.runFrames keypads).soundTimer = (first.runFrames keypads).soundTimer ∧
        (late ≠ [] → second.runFrames keypads = first.runFrames keypads) := by
  have hfree : ∀ keypads, ∀ turn ∈ first.turns keypads, ∀ stride ∈ turn.strides, True :=
    fun _ _ _ _ _ => trivial
  refine ⟨fun keypads => lockstep_sound.turns h (List.forall₂_refl keypads) (hfree keypads), ?_⟩
  intro early keypad late hset keypads
  have hearly := lockstep_sound.runFrames h (List.forall₂_refl early) (hfree early)
  -- What is left of the difference after the frame that sets the timer.
  have hfinal : (Turn.mk (first.runFrames early) keypad).final.AlikeButTone
      (Turn.mk (second.runFrames early) keypad).final := by
    rw [Turn.Sets, Turn.strides, Turn.opened, Timer.setter] at hset
    rw [Turn.final_eq_last, Turn.final_eq_last, Turn.opened, Turn.opened]
    exact (lockstep_sound.beginFrame hearly rfl).alikeButTone_walk hset
  rw [State.runFrames_append, State.runFrames_append, State.runFrames_cons,
    State.runFrames_cons]
  refine ⟨?_, hfinal.runFrames_eq⟩
  cases late with
  | nil => rw [State.runFrames_nil, State.runFrames_nil, hfinal]
  | cons next late => rw [hfinal.runFrames_eq (List.cons_ne_nil next late)]

/-! ### A program that sets the sound timer -/

/-- A program of which the first instruction sets the sound timer. -/
def buzzer : State :=
  { State.ofSeed 0 with
    memory := Bank.writeAll State.blankMemory [(0x200, 0xF0), (0x201, 0x18)] }

theorem sets_buzzer : (Turn.mk buzzer 0).Sets .sound := by
  have hbytes : buzzer.memory[0x200] = 0xF0 ∧ buzzer.memory[0x201] = 0x18 := by decide +kernel
  have hpc : buzzer.pc.toNat = 0x200 := rfl
  have hfetch : (buzzer.beginFrame 0).fetch = .ok 0xF018 :=
    State.fetch_at hpc (by decide) hbytes.1 hbytes.2
  have hdecode : decode (0xF018 : UInt16).toNat =
      .ok ⟨⟨0xF018, 0, 1, 8, 0x18, 0x018⟩, .ldStVx⟩ := by
    decide
  have hgranted : (buzzer.beginFrame 0).budget = 16666 := rfl
  have hbudget : 0 < (buzzer.beginFrame 0).budget := by
    rw [hgranted]
    decide
  rw [Turn.Sets, Turn.strides, Turn.opened,
    State.walk_of_ok hbudget (State.step_of_check hfetch hdecode rfl)]
  exact ⟨_, List.mem_cons_self, rfl⟩

/-- After its first frame both timers are the same, and after the second one everything is,
however it sounded before. -/
theorem sound_never_matters_buzzer :
    let other := { buzzer with soundTimer := 9, tone := true }
    buzzer.AlikeButSound other ∧ (Turn.mk buzzer 0).Sets .sound ∧
      (other.runFrames [0]).soundTimer = (buzzer.runFrames [0]).soundTimer ∧
      other.runFrames [0, 0] = buzzer.runFrames [0, 0] := by
  intro other
  have halike : buzzer.AlikeButSound other := rfl
  have hfirst := (sound_never_matters halike).2 [] 0 [] sets_buzzer
  have hsecond := (sound_never_matters halike).2 [] 0 [0] sets_buzzer
  exact ⟨halike, sets_buzzer, hfirst.1, hsecond.2 (List.cons_ne_nil _ _)⟩

end Chip8
