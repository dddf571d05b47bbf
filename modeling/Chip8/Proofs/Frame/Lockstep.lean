import Mathlib.Data.List.Forall2
import Chip8.Proofs.Frame.Turn

/-!
# Frames in lockstep

Some parts of the state do not decide what is carried out next, unless an instruction looks
at them.  Two states that differ in such a part alone take the same steps, and frames that
are run from both keep the same statistics.

The argument does not depend on which part it is, and is made here once.  `Lockstep` asks
that alike states agree on what the loop of a frame looks at (`SameCourse`), and that
beginning a frame and carrying out an instruction leave alike states alike.

* **Failures.**  A round that fails records what it found.  `SameCourse.stats_tick` says that
  both record the same, down to the operand.
* **Instructions that look.**  An operation that is not `free` may tell alike states apart.
  It is enough that the first run carries out none: it chooses for both, since up to there
  both have carried out the same.
-/

namespace Chip8

/-- Two states that agree on all that decides whether a round is due, which instruction it
finds, and whether this passes the checks. -/
structure State.SameCourse (first second : State) : Prop where
  pc : second.pc = first.pc
  memory : second.memory = first.memory
  index : second.index = first.index
  stack : second.stack = first.stack
  budget : second.budget = first.budget

namespace State.SameCourse

variable {first second next : State} {instruction : Instruction} {fault : Fault}

theorem fetch_eq (h : SameCourse first second) : second.fetch = first.fetch := by
  simp only [State.fetch, h.pc, h.memory]

theorem check_eq (h : SameCourse first second) (instruction : Instruction) :
    second.check instruction = first.check instruction := by
  simp only [State.check, Guard.check, Guard.checkStack, Guard.checkSpan, h.pc, h.index, h.stack]

theorem step_eq_ok (h : SameCourse first second) (hstep : first.step = .ok (next, instruction)) :
    second.step = .ok ((second.execute instruction).charge instruction.cost, instruction) := by
  obtain ⟨word, hfetch, hdecode, hcheck, -⟩ := State.step_eq_ok hstep
  exact step_of_check (h.fetch_eq.trans hfetch) hdecode ((h.check_eq instruction).trans hcheck)

theorem step_eq_error (h : SameCourse first second) (hstep : first.step = .error fault) :
    second.step = .error fault := by
  rw [step_eq_error_iff] at hstep ⊢
  simp only [h.fetch_eq, h.check_eq]
  exact hstep

theorem word_eq (h : SameCourse first second) : Frame.word second = Frame.word first := by
  simp only [Frame.word, h.pc, h.memory]

theorem checks_eq (h : SameCourse first second) (op : Option Op) (operands : Operands) :
    Frame.checks second op operands = Frame.checks first op operands := by
  simp only [Frame.checks, h.pc, h.index, h.stack]

theorem stats_tick (h : SameCourse first second) (stats : FrameStats) :
    (Frame.tick second stats).2 = (Frame.tick first stats).2 := by
  unfold Frame.tick
  rw [h.word_eq]
  generalize Decode.Table.decode (Frame.word first) = decoded
  obtain ⟨op, operands⟩ := decoded
  dsimp only
  rw [h.checks_eq]
  split <;> rfl

end State.SameCourse

/-- A relation between states that frames keep, as long as the masks of both are related and
all that is carried out are free operations. -/
structure Lockstep (alike : State → State → Prop) (masks : UInt16 → UInt16 → Prop)
    (free : Op → Prop) : Prop where
  course : ∀ {first second : State}, alike first second → first.SameCourse second
  beginFrame : ∀ {first second : State} {held other : UInt16}, alike first second →
    masks held other → alike (first.beginFrame held) (second.beginFrame other)
  execute : ∀ {first second : State} (instruction : Instruction), alike first second →
    free instruction.op →
    alike ((first.execute instruction).charge instruction.cost)
      ((second.execute instruction).charge instruction.cost)

namespace Lockstep

variable {alike : State → State → Prop} {masks : UInt16 → UInt16 → Prop} {free : Op → Prop}
variable {first second : State}

theorem step (h : Lockstep alike masks free) (halike : alike first second) {next : State}
    {instruction : Instruction} (hstep : first.step = .ok (next, instruction))
    (hfree : free instruction.op) :
    ∃ other, second.step = .ok (other, instruction) ∧ alike next other := by
  refine ⟨_, (h.course halike).step_eq_ok hstep, ?_⟩
  obtain ⟨_, _, _, _, rfl⟩ := State.step_eq_ok hstep
  exact h.execute instruction halike hfree

/-- The loop of a frame keeps the same statistics from both states and leaves them alike. -/
theorem run (h : Lockstep alike masks free) (halike : alike first second)
    (hfree : ∀ stride ∈ first.walk.strides, free stride.instruction.op) (stats : FrameStats)
    (hstop : stats.stop = .none) (hoperand : stats.operand = 0) :
    alike (Frame.run first stats).1 (Frame.run second stats).1 ∧
      (Frame.run second stats).2 = (Frame.run first stats).2 := by
  -- The first run is followed to its end, and the second one goes along.
  induction first using State.walk_induction generalizing second stats with
  | spent first hbudget =>
      have hother : ¬0 < second.budget := by
        rw [(h.course halike).budget]
        exact hbudget
      rw [Frame.run_of_not_running fun running => hbudget running.1,
        Frame.run_of_not_running fun running => hother running.1]
      exact ⟨halike, rfl⟩
  | refused first fault hbudget hstep =>
      have hcourse := h.course halike
      have hother : 0 < second.budget := by
        rw [hcourse.budget]
        exact hbudget
      obtain ⟨stop, operand, htick, hfault⟩ := Frame.tick_of_error stats hstep
      obtain ⟨stop', operand', htick', -⟩ :=
        Frame.tick_of_error stats (hcourse.step_eq_error hstep)
      have hsame := hcourse.stats_tick stats
      rw [htick, htick'] at hsame
      have hended : ∀ state, ¬Frame.Running state (stats.halt stop operand) := by
        intro state running
        have hnone : stop = .none := running.2
        simp [hnone] at hfault
      rw [Frame.run_of_running ⟨hbudget, hstop⟩, Frame.run_of_running ⟨hother, hstop⟩, htick,
        htick', hsame, Frame.run_of_not_running (hended _), Frame.run_of_not_running (hended _)]
      exact ⟨halike, rfl⟩
  | taken first next instruction hbudget hstep ih =>
      have hother : 0 < second.budget := by
        rw [(h.course halike).budget]
        exact hbudget
      rw [State.walk_of_ok hbudget hstep, List.forall_mem_cons] at hfree
      obtain ⟨next', hstep', hnext⟩ := h.step halike hstep hfree.1
      rw [Frame.run_of_running ⟨hbudget, hstop⟩, Frame.run_of_running ⟨hother, hstop⟩,
        Frame.tick_of_ok stats hoperand hstep, Frame.tick_of_ok stats hoperand hstep']
      exact ih hnext hfree.2 (stats.record instruction.op) hstop hoperand

theorem walk (h : Lockstep alike masks free) (halike : alike first second)
    (hfree : ∀ stride ∈ first.walk.strides, free stride.instruction.op) :
    alike first.walk.last second.walk.last := by
  have hrun := (h.run halike hfree FrameStats.empty rfl rfl).1
  rwa [(Frame.run_eq_walk first .empty rfl rfl).1,
    (Frame.run_eq_walk second .empty rfl rfl).1] at hrun

/-- So does a whole frame. -/
theorem frame (h : Lockstep alike masks free) (halike : alike first second)
    {held other : UInt16} (hmasks : masks held other)
    (hfree : ∀ stride ∈ (Turn.mk first held).strides, free stride.instruction.op) :
    alike (Turn.mk first held).final (Turn.mk second other).final ∧
      (Turn.mk second other).stats = (Turn.mk first held).stats := by
  rw [Turn.strides, Turn.opened] at hfree
  rw [Turn.final, Turn.final, Turn.stats, Turn.stats, State.runFrame, State.runFrame]
  exact h.run (h.beginFrame halike hmasks) hfree .empty rfl rfl

/-- Frame by frame, many frames keep the same statistics from both states and leave them
alike. -/
theorem turns (h : Lockstep alike masks free) (halike : alike first second)
    {held others : List UInt16} (hmasks : List.Forall₂ masks held others)
    (hfree : ∀ turn ∈ first.turns held, ∀ stride ∈ turn.strides, free stride.instruction.op) :
    List.Forall₂ (fun turn other => alike turn.final other.final ∧ other.stats = turn.stats)
      (first.turns held) (second.turns others) := by
  induction hmasks generalizing first second with
  | nil => exact .nil
  | cons hmask _ ih =>
      rw [State.turns_cons, List.forall_mem_cons] at hfree
      rw [State.turns_cons, State.turns_cons]
      have hframe := h.frame halike hmask hfree.1
      exact .cons hframe (ih hframe.1 hfree.2)

theorem runFrames (h : Lockstep alike masks free) (halike : alike first second)
    {held others : List UInt16} (hmasks : List.Forall₂ masks held others)
    (hfree : ∀ turn ∈ first.turns held, ∀ stride ∈ turn.strides, free stride.instruction.op) :
    alike (first.runFrames held) (second.runFrames others) := by
  induction hmasks generalizing first second with
  | nil => exact halike
  | cons hmask _ ih =>
      rw [State.turns_cons, List.forall_mem_cons] at hfree
      rw [State.runFrames_cons, State.runFrames_cons]
      exact ih (h.frame halike hmask hfree.1).1 hfree.2

end Lockstep

end Chip8
