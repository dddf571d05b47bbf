import Chip8.Proofs.Frame.Lockstep

/-!
# What the keypad can influence

Three operations look at the keys.  A program that carries out none of them runs the same
whatever is held: of two states that differ in the keypad alone, every other instruction
makes two that again differ in the keypad alone (`Execute.execute_keypad`), and nothing else
in a frame looks at it.

Which instructions are carried out is asked of one run only.  The other one carries out the
same, since up to the first instruction that looks at the keys nothing can tell them apart.
-/

namespace Chip8

/-- The operations that look at the keys. -/
def keyOps : List Op := [.skp, .sknp, .ldVxK]

/-- Two states that differ in their keypads at most. -/
def State.AlikeButKeypad (first second : State) : Prop :=
  second = { first with keypad := second.keypad }

theorem Execute.execute_keypad (beyond : Overrun) {instruction : Instruction}
    (hop : instruction.op ∉ keyOps) (state : State) (keypad : UInt16) :
    execute beyond instruction { state with keypad } =
      { execute beyond instruction state with keypad } := by
  unfold execute
  cases h : instruction.op
  case skp | sknp | ldVxK => simp [h, keyOps] at hop
  all_goals rfl

theorem lockstep_keypad :
    Lockstep State.AlikeButKeypad (fun _ _ => True) (· ∉ keyOps) where
  course := by
    intro first second halike
    rw [halike]
    exact ⟨rfl, rfl, rfl, rfl, rfl⟩
  beginFrame := by
    intro first second held other halike _
    rw [halike]
    rfl
  execute := by
    intro first second instruction halike hop
    have hexecute : second.execute instruction =
        { first.execute instruction with keypad := second.keypad } := by
      rw [halike]
      exact Execute.execute_keypad first.clamp hop first second.keypad
    show (second.execute instruction).charge instruction.cost = _
    rw [hexecute]
    rfl

/-- Keys matter through the instructions that look at them alone.  From two states that
differ in their keypads at most, two sequences of frames are run, as many of each, with
whatever keys held.  If none of the first sequence counts an instruction that looks at the
keys, then after each frame the states differ in their keypads at most, and the statistics
of the frame are the same. -/
theorem keys_matter_to_keyOps {first second : State} (halike : first.AlikeButKeypad second)
    {held others : List UInt16} (hlength : others.length = held.length)
    (hfree : ∀ turn ∈ first.turns held, ∀ op ∈ keyOps, turn.stats.count op = 0) :
    List.Forall₂
      (fun turn other =>
        other.final = { turn.final with keypad := other.final.keypad } ∧
          other.stats = turn.stats)
      (first.turns held) (second.turns others) := by
  have hmasks : List.Forall₂ (fun _ _ => True) held others := by
    rw [List.forall₂_iff_zip]
    exact ⟨hlength.symm, fun _ => trivial⟩
  refine lockstep_keypad.turns halike hmasks ?_
  intro turn hturn stride hstride hop
  exact (turn.count_eq_zero_iff _).mp (hfree turn hturn _ hop) stride hstride rfl

/-! ### A program that looks at no keys -/

/-- A program that jumps to itself. -/
def jumpLoop : State :=
  { State.ofSeed 0 with
    memory := Bank.writeAll State.blankMemory [(0x200, 0x12), (0x201, 0x00)] }

/-- The next instruction is one that jumps to itself. -/
structure InJumpLoop (state : State) : Prop where
  pc : state.pc = 0x200
  high : state.memory[0x200] = 0x12
  low : state.memory[0x201] = 0x00

theorem InJumpLoop.step (state : State) (h : InJumpLoop state) :
    ∃ next instruction, state.step = .ok (next, instruction) ∧ InJumpLoop next ∧
      instruction.op = .jp := by
  have hfetch : state.fetch = .ok 0x1200 :=
    State.fetch_at (by rw [h.pc]; rfl) (by decide) h.high h.low
  have hdecode : decode (0x1200 : UInt16).toNat = .ok ⟨⟨0x1200, 2, 0, 0, 0, 0x200⟩, .jp⟩ := by
    decide
  exact ⟨_, _, State.step_of_check hfetch hdecode rfl, ⟨rfl, h.high, h.low⟩, rfl⟩

theorem inJumpLoop_jumpLoop : InJumpLoop jumpLoop := by
  have hbytes : jumpLoop.memory[0x200] = 0x12 ∧ jumpLoop.memory[0x201] = 0x00 := by
    decide +kernel
  exact ⟨rfl, hbytes.1, hbytes.2⟩

theorem op_strides_jumpLoop (keypads : List UInt16) :
    ∀ turn ∈ jumpLoop.turns keypads, ∀ stride ∈ turn.strides, stride.instruction.op = .jp := by
  have hstep : ∀ state next instruction, InJumpLoop state →
      state.step = .ok (next, instruction) → InJumpLoop next ∧ instruction.op = .jp := by
    intro state next instruction hloop hstep
    obtain ⟨other, found, hother, hnext, hop⟩ := hloop.step
    rw [hstep, Except.ok.injEq, Prod.mk.injEq] at hother
    obtain ⟨rfl, rfl⟩ := hother
    exact ⟨hnext, hop⟩
  exact State.strides_turns (fun _ _ h => ⟨h.pc, h.high, h.low⟩) hstep inJumpLoop_jumpLoop
    keypads

/-- Three frames of it, without a key and with different ones. -/
theorem keys_matter_to_keyOps_jumpLoop :
    let other := { jumpLoop with keypad := 0x8000 }
    let held : List UInt16 := [0, 0, 0]
    let others : List UInt16 := [0x0001, 0xFFFF, 0x0002]
    jumpLoop.AlikeButKeypad other ∧ others.length = held.length ∧
    (∀ turn ∈ jumpLoop.turns held, ∀ op ∈ keyOps, turn.stats.count op = 0) ∧
    List.Forall₂ (fun turn other => other.stats = turn.stats)
      (jumpLoop.turns held) (other.turns others) := by
  intro other held others
  have halike : jumpLoop.AlikeButKeypad other := rfl
  have hlength : others.length = held.length := rfl
  have hfree : ∀ turn ∈ jumpLoop.turns held, ∀ op ∈ keyOps, turn.stats.count op = 0 := by
    intro turn hturn op hop
    rw [Turn.count_eq_zero_iff]
    rintro stride hstride rfl
    rw [op_strides_jumpLoop held turn hturn stride hstride] at hop
    exact absurd hop (by decide)
  exact ⟨halike, hlength, hfree,
    (keys_matter_to_keyOps halike hlength hfree).imp fun _ _ h => h.2⟩

end Chip8
