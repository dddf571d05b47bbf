import Mathlib.Data.List.Basic
import Chip8.Machine
import Chip8.Proofs.Frame.Simulation

/-!
# Steady machines

An observer or a logger can make an operation of a machine fail halfway, and a listener of a
host's own can even change the machine under way.  On a machine whose clock shows seconds, whose
logger can always write and whose observers neither fail nor meddle, nothing of the kind happens:
such a machine is steady, and stays so.

On a steady machine, logging only writes (`logged`), and telling reaches every observer in
order (`told`).  So every operation is given by what it comes to: `install_eq`, `loaded`,
`loadFile_eq` and `runMask_eq`.  For some questions it is enough that the observers leave the
machine alone, whether or not they fail (`Machine.Harmless`).
-/

namespace Chip8

open Console (Level Logger)

/-! ### Loggers -/

/-- A logger that shows no times, or that was opened at a clock showing seconds. -/
def Console.Logger.Steady (logger : Logger) : Prop :=
  logger.timed = false ∨ ∃ opened : Float, logger.opened = .real opened

/-- What a logger writes, or nothing where it fails. -/
def Console.Logger.text (logger : Logger) (clock : Argument) (level : Level)
    (message : String) : String :=
  match logger.write clock level message with
  | .ok text => text
  | .error _ => ""

theorem Console.Logger.Steady.write_eq {logger : Logger} (h : logger.Steady) (now : Float)
    (level : Level) (message : String) :
    logger.write (.real now) level message = .ok (logger.text (.real now) level message) := by
  obtain ⟨text, htext⟩ : ∃ text, logger.write (.real now) level message = .ok text := by
    rcases h with huntimed | ⟨opened, hopened⟩
    · exact ⟨_, Logger.write_of_not_timed huntimed (.real now) level message⟩
    · exact Logger.exists_write_of_real hopened now level message
  rw [Logger.text, htext]

/-- A console that shows warnings and errors with their times, in no colour. -/
def plainConsole : Logger := ⟨.text "chipcore", .warning, .truth false, true, .real 0⟩

theorem steady_plainConsole : plainConsole.Steady := Or.inr ⟨0, rfl⟩

/-! ### Observers -/

namespace Observer

/-- An observer after several moments. -/
def after (observer : Observer) (moments : List Moment) : Observer :=
  moments.foldl (fun observer moment => observer.heard moment) observer

/-- An observer that leaves the machine alone, whatever it was told before. -/
def Harmless (observer : Observer) : Prop :=
  ∀ past moment, ((observer.after past).respond moment).core = moment.core

/-- A harmless observer that never fails while the clock shows seconds, whatever it was told
before. -/
structure Steady (observer : Observer) : Prop where
  harmless : observer.Harmless
  fine : ∀ past (now : Float) core event,
    ((observer.after past).respond ⟨.real now, core, event⟩).failure = none

/-- What an observer writes at a moment. -/
def text (moment : Moment) (observer : Observer) : String := (observer.respond moment).text

theorem Harmless.heard {observer : Observer} (h : observer.Harmless) (moment : Moment) :
    (observer.heard moment).Harmless :=
  fun past => h (moment :: past)

theorem Steady.heard {observer : Observer} (h : observer.Steady) (moment : Moment) :
    (observer.heard moment).Steady :=
  ⟨h.harmless.heard moment, fun past => h.fine (moment :: past)⟩

theorem Steady.respond_eq {observer : Observer} (h : observer.Steady) (now : Float) (core : Core)
    (event : Event) :
    observer.respond ⟨.real now, core, event⟩ =
      ⟨observer.text ⟨.real now, core, event⟩, core, none⟩ := by
  have hcore : (observer.respond ⟨.real now, core, event⟩).core = core := h.harmless [] _
  have hfine : (observer.respond ⟨.real now, core, event⟩).failure = none := h.fine [] _ _ _
  calc observer.respond ⟨.real now, core, event⟩
      = ⟨(observer.respond ⟨.real now, core, event⟩).text,
          (observer.respond ⟨.real now, core, event⟩).core,
          (observer.respond ⟨.real now, core, event⟩).failure⟩ := rfl
    _ = ⟨observer.text ⟨.real now, core, event⟩, core, none⟩ := by rw [hcore, hfine, text]

/-! The observers of the library's own kinds are harmless, and steady if they can write. -/

theorem after_passive (past : List Moment) : passive.after past = passive := by
  induction past with
  | nil => rfl
  | cons moment past ih => exact ih

theorem exists_after_metrics (sums : Metrics) (past : List Moment) :
    ∃ later, (metrics sums).after past = metrics later := by
  induction past generalizing sums with
  | nil => exact ⟨sums, rfl⟩
  | cons moment past ih => exact ih (sums.record moment.event)

theorem after_summary (settings : Console.Summary) (past : List Moment) :
    (summary settings).after past = summary settings := by
  induction past with
  | nil => rfl
  | cons moment past ih => exact ih

theorem harmless_summary (settings : Console.Summary) : (summary settings).Harmless := by
  intro past moment
  rw [after_summary, respond]
  cases settings.react moment.clock moment.notice <;> rfl

theorem steady_passive : passive.Steady where
  harmless past moment := by rw [after_passive, respond]
  fine past now core event := by rw [after_passive, respond]

theorem steady_metrics (sums : Metrics) : (metrics sums).Steady where
  harmless past moment := by
    obtain ⟨later, hlater⟩ := exists_after_metrics sums past
    rw [hlater, respond]
  fine past now core event := by
    obtain ⟨later, hlater⟩ := exists_after_metrics sums past
    rw [hlater, respond]

theorem after_host (listener : Listener) (past : List Moment) :
    (host listener).after past = host { listener with past := listener.past ++ past } := by
  induction past generalizing listener with
  | nil => rw [List.append_nil, after, List.foldl_nil]
  | cons moment past ih =>
      have hrest := ih { listener with past := listener.past ++ [moment] }
      rw [List.append_assoc, List.singleton_append] at hrest
      exact hrest

/-- A listener that never changes the machine and never fails is steady, whatever else it does. -/
theorem steady_host {listener : Listener}
    (hharmless : ∀ past moment, (listener.respond past moment).core = moment.core)
    (hfine : ∀ past moment, (listener.respond past moment).failure = none) :
    (host listener).Steady where
  harmless past moment := by
    rw [after_host]
    exact hharmless _ moment
  fine past now core event := by
    rw [after_host]
    exact hfine _ _

/-- A summary that is due after every so many frames can always be written. -/
theorem steady_summary {summary : Console.Summary} {interval : Int}
    (hinterval : summary.interval = .integer interval) (hne : interval ≠ 0)
    (hlogger : summary.logger.Steady) : (Observer.summary summary).Steady := by
  refine ⟨harmless_summary summary, fun past now core event => ?_⟩
  have hreact (notice : Notice) : ∃ text, summary.react (.real now) notice = .ok text := by
    unfold Console.Summary.react
    cases notice.event with
    | loaded size => exact ⟨_, hlogger.write_eq now _ _⟩
    | executed counts elapsed => exact ⟨"", rfl⟩
    | failed fault => exact ⟨_, hlogger.write_eq now _ _⟩
    | finished instructions elapsed =>
        have hdue : summary.isDue 0 (Console.Sight.ofNotice notice).frames = _ :=
          Console.Summary.isDue_integer hinterval hne 0 notice.frames
        simp only [Console.Summary.onFrame, hdue, Console.Summary.frameText_ofNotice]
        cases notice.frames % interval == 0 with
        | false => exact ⟨"", rfl⟩
        | true => exact ⟨_, hlogger.write_eq now _ _⟩
  obtain ⟨text, htext⟩ := hreact (Moment.notice ⟨.real now, core, event⟩)
  rw [after_summary, respond, htext]

end Observer

/-! ### Rounds -/

/-- A notice as it reaches so many observers, the first of them in some position. -/
def Notice.toAll (notice : Notice) (position count : Nat) : List Delivery :=
  (List.range' position count).map fun position => ⟨position, notice⟩

namespace Round

/-- Harmless observers stay so and leave the machine alone, even if the round ends early. -/
theorem tell_of_harmless {observers : List Observer}
    (h : ∀ observer ∈ observers, observer.Harmless) (clock : Argument) (event : Event)
    (core : Core) (position : Nat) :
    let round := Round.tell clock event core position observers
    round.core = core ∧ ∀ observer ∈ round.observers, observer.Harmless := by
  induction observers generalizing position with
  | nil => exact ⟨rfl, h⟩
  | cons observer rest ih =>
      rw [List.forall_mem_cons] at h
      obtain ⟨hfirst, hrest⟩ := h
      have hcore : (observer.respond ⟨clock, core, event⟩).core = core := hfirst [] _
      rw [Round.tell]
      cases hfailure : (observer.respond ⟨clock, core, event⟩).failure with
      | some failure =>
          exact ⟨hcore, List.forall_mem_cons.mpr ⟨hfirst.heard _, hrest⟩⟩
      | none =>
          simp only [hcore]
          obtain ⟨hleft, hlater⟩ := ih hrest (position + 1)
          exact ⟨hleft, List.forall_mem_cons.mpr ⟨hfirst.heard _, hlater⟩⟩

/-- Telling steady observers reaches each of them in order. -/
theorem tell_eq {observers : List Observer} (h : ∀ observer ∈ observers, observer.Steady)
    (now : Float) (event : Event) (core : Core) (position : Nat) :
    let moment : Moment := ⟨.real now, core, event⟩
    Round.tell (.real now) event core position observers =
      ⟨observers.map (·.heard moment), core, String.join (observers.map (·.text moment)),
        moment.notice.toAll position observers.length, none⟩ := by
  intro moment
  induction observers generalizing position with
  | nil => rfl
  | cons observer rest ih =>
      rw [List.forall_mem_cons] at h
      rw [Round.tell, h.1.respond_eq now core event]
      dsimp only
      rw [ih h.2 (position + 1)]
      simp only [List.map_cons, String.join_cons, List.length_cons, Notice.toAll, List.range'_succ,
        moment]

end Round

/-! ### Machines -/

namespace Machine

/-- No observer changes the machine. -/
def Harmless (machine : Machine) : Prop := ∀ observer ∈ machine.observers, observer.Harmless

/-- The clock shows seconds, the logger can write, and no observer fails or changes the
machine. -/
structure Steady (machine : Machine) : Prop where
  clock : ∃ now : Float, machine.clock = .real now
  logger : machine.logger.Steady
  observers : ∀ observer ∈ machine.observers, observer.Steady

theorem Steady.harmless {machine : Machine} (h : machine.Steady) : machine.Harmless :=
  fun observer hmem => (h.observers observer hmem).harmless

variable (machine : Machine) (level : Level) (message : String) (event : Event)

/-- The notice of an event that happens now. -/
def notice : Notice := (machine.moment event).notice

/-- A machine after it has logged a message. -/
def logged : Machine :=
  { machine with
    transcript := machine.transcript ++ machine.logger.text machine.clock level message }

/-- A machine after all its observers were told about an event. -/
def told : Machine :=
  let moment := machine.moment event
  { machine with
    observers := machine.observers.map (·.heard moment)
    transcript := machine.transcript ++ String.join (machine.observers.map (·.text moment))
    deliveries := machine.deliveries ++ moment.notice.toAll 0 machine.observers.length }

@[simp] theorem state_told : (machine.told event).state = machine.state := rfl

@[simp] theorem observers_told :
    (machine.told event).observers =
      machine.observers.map (·.heard (machine.moment event)) := rfl

/-! ### What operations come to -/

/-- A machine after it has logged that a program of some length was loaded. -/
def measured (length : Nat) : Machine :=
  machine.logged .info s!"Loaded {length} bytes at 0x200"

/-- A machine after it has logged and told that a program was loaded. -/
def announced (logged told : Nat) : Machine := (machine.measured logged).told (.loaded told)

/-- What a program that cannot be loaded comes to: only faults of the machine are
logged. -/
def refused : Failure → Outcome
  | .fault fault => (machine.logged .error fault.message, some (.fault fault))
  | failure => (machine, some failure)

/-- A machine after a frame that it has not yet told about. -/
def ran (keypad : UInt16) : Machine :=
  let stats := (machine.state.runFrame keypad).2
  { machine with
    state := (machine.state.runFrame keypad).1
    instructions := machine.instructions + stats.instructions.toInt }

/-- A machine after a frame, with what was carried out reported. -/
def reported (keypad : UInt16) : Machine :=
  let stats := (machine.state.runFrame keypad).2
  (machine.ran keypad).told (.executed stats.opCounts stats.elapsed.toInt)

/-- A machine after it has reported the end of a frame. -/
def finished (instructions elapsed : Int) : Machine :=
  let counted := { machine with frames := machine.frames + 1 }
  (counted.logged .debug
    s!"Frame {counted.frames}: {instructions} instructions, {elapsed}us").told
      (.finished instructions elapsed)

/-- A machine after it has reported the fault that stopped a frame. -/
def aborted (instructions : Int) (fault : Fault) : Machine :=
  let halted := s!"Frame {machine.frames} halted after {instructions} instructions: "
  (machine.logged .error (halted ++ fault.message)).told (.failed fault)

/-- What loading comes to.  It may be refused, and even a program that is in memory may turn
out to have no length to log or to tell. -/
inductive Loaded (program : Program) : Outcome → Prop where
  | refused {failure : Failure} (h : machine.state.loadProgram program = .error failure) :
      Loaded program (machine.refused failure)
  | announced {state : State} {logged told : Nat}
      (h : machine.state.loadProgram program = .ok state)
      (hlogged : program.loggedLength = .ok logged) (htold : program.toldLength = .ok told) :
      Loaded program ({ machine with state }.announced logged told, none)
  | unlogged {state : State} {failure : Failure}
      (h : machine.state.loadProgram program = .ok state)
      (hlogged : program.loggedLength = .error failure) :
      Loaded program ({ machine with state }, some failure)
  | untold {state : State} {logged : Nat} {failure : Failure}
      (h : machine.state.loadProgram program = .ok state)
      (hlogged : program.loggedLength = .ok logged)
      (htold : program.toldLength = .error failure) :
      Loaded program ({ machine with state }.measured logged, some failure)

namespace Steady

variable {machine : Machine} (h : machine.Steady)

include h

theorem logged (level : Level) (message : String) : (machine.logged level message).Steady :=
  ⟨h.clock, h.logger, h.observers⟩

theorem told (event : Event) : (machine.told event).Steady := by
  refine ⟨h.clock, h.logger, ?_⟩
  intro observer hmem
  obtain ⟨before, hbefore, rfl⟩ := List.mem_map.mp hmem
  exact (h.observers before hbefore).heard _

/-- Neither what a machine counts nor the state it owns makes it fail. -/
theorem with_counters (state : State) (frames : Nat) (instructions : Int) :
    Steady { machine with state, frames, instructions } :=
  ⟨h.clock, h.logger, h.observers⟩

theorem log_eq (level : Level) (message : String) :
    machine.log level message = (machine.logged level message, none) := by
  obtain ⟨now, hnow⟩ := h.clock
  simp only [log, Machine.logged, hnow, h.logger.write_eq now level message]

theorem tell_eq (event : Event) : machine.tell event = (machine.told event, none) := by
  obtain ⟨now, hnow⟩ := h.clock
  simp only [tell, Machine.told, moment, hnow, Round.tell_eq h.observers now]

theorem announced (logged told : Nat) : (machine.announced logged told).Steady :=
  (h.logged _ _).told _

theorem refused (failure : Failure) : (machine.refused failure).1.Steady := by
  cases failure with
  | fault fault => exact h.logged _ _
  | _ => exact h

theorem reported (keypad : UInt16) : (machine.reported keypad).Steady :=
  (h.with_counters _ _ _).told _

theorem finished (instructions elapsed : Int) : (machine.finished instructions elapsed).Steady :=
  ((h.with_counters _ _ _).logged _ _).told _

theorem aborted (instructions : Int) (fault : Fault) :
    (machine.aborted instructions fault).Steady :=
  (h.logged _ _).told _

theorem install_eq (loaded : Except Failure State) :
    machine.install loaded =
      match loaded with
      | .ok state => ({ machine with state }, none)
      | .error failure => machine.refused failure := by
  rcases loaded with failure | state
  · cases failure with
    | fault fault =>
        rw [install, h.log_eq]
        rfl
    | _ => rfl
  · rfl

theorem loaded (program : Program) : Loaded machine program (machine.load program) := by
  rw [load, h.install_eq]
  cases hload : machine.state.loadProgram program with
  | error failure =>
      have hrefused : Outcome.andThen (machine.refused failure) (·.announce program) =
          machine.refused failure := by
        cases failure <;> rfl
      dsimp only
      rw [hrefused]
      exact .refused hload
  | ok state =>
      have hinstalled : Steady { machine with state } := h.with_counters _ _ _
      dsimp only
      rw [Outcome.andThen_none, announce]
      cases hlogged : program.loggedLength with
      | error failure => exact .unlogged hload hlogged
      | ok logged =>
          dsimp only
          rw [hinstalled.log_eq, Outcome.andThen_none]
          cases htold : program.toldLength with
          | error failure => exact .untold hload hlogged htold
          | ok told =>
              dsimp only
              rw [(hinstalled.logged _ _).tell_eq]
              exact .announced hload hlogged htold

theorem loadFile_eq (file : ProgramFile) :
    machine.loadFile file =
      match file.bytes, file.name with
      | .error failure, _ => (machine, some failure)
      | .ok _, .error failure => (machine, some failure)
      | .ok _, .ok name =>
          (machine.logged .info ("Reading ROM '" ++ name ++ "'")).load file.program := by
  rw [loadFile]
  cases file.bytes with
  | error failure => rfl
  | ok bytes =>
      cases file.name with
      | error failure => rfl
      | ok name =>
          dsimp only
          rw [h.log_eq, Outcome.andThen_none]

theorem finish_eq (instructions elapsed : Int) :
    machine.finish instructions elapsed = (machine.finished instructions elapsed, none) := by
  have hcounted : Steady { machine with frames := machine.frames + 1 } := h.with_counters _ _ _
  rw [finish, hcounted.log_eq, Outcome.andThen_none, (hcounted.logged _ _).tell_eq,
    Machine.finished]

theorem abort_eq (instructions : Int) (fault : Fault) :
    machine.abort instructions fault =
      (machine.aborted instructions fault, some (.fault fault)) := by
  rw [abort, h.log_eq, Outcome.andThen_none, (h.logged _ _).tell_eq, Outcome.andThen_none,
    Machine.aborted, fail]

/-- A frame first reports what was carried out, and then how it ended. -/
theorem runMask_eq (keypad : UInt16) :
    machine.runMask keypad =
      match (machine.state.beginFrame keypad).walk.fault with
      | some fault =>
          ((machine.reported keypad).aborted
            (machine.state.beginFrame keypad).walk.strides.length fault, some (.fault fault))
      | none =>
          ((machine.reported keypad).finished
            (machine.state.beginFrame keypad).walk.strides.length
            (machine.state.runFrame keypad).2.elapsed.toInt, none) := by
  have hran : (machine.ran keypad).Steady := h.with_counters _ _ _
  have hreported := h.reported keypad
  rw [runMask, ← State.fault_runFrame, ← State.toInt_instructions_runFrame]
  rcases hframe : machine.state.runFrame keypad with ⟨state, stats⟩
  simp only [Machine.reported, ran, hframe] at hran hreported ⊢
  rw [hran.tell_eq, Outcome.andThen_none]
  simp only [state_told]
  cases stats.fault? state with
  | none => exact hreported.finish_eq _ _
  | some fault => exact hreported.abort_eq _ _

end Steady

/-! ### Fresh machines -/

/-- A machine is steady from the start if its logger and its observers are. -/
theorem steady_fresh {logger : Logger} (hlogger : logger.Steady) {observers : List Observer}
    (hobservers : ∀ observer ∈ observers, observer.Steady) (state : State) (now : Float) :
    (fresh state logger observers (.real now)).Steady :=
  ⟨⟨now, rfl⟩, hlogger, hobservers⟩

/-- One that adds up among steady observers does not change that. -/
theorem steady_fresh_metrics {logger : Logger} (hlogger : logger.Steady)
    {early late : List Observer} (hearly : ∀ observer ∈ early, observer.Steady)
    (hlate : ∀ observer ∈ late, observer.Steady) (state : State) (sums : Metrics) (now : Float) :
    (fresh state logger (early ++ .metrics sums :: late) (.real now)).Steady := by
  refine steady_fresh hlogger (fun observer hmem => ?_) state now
  rcases List.mem_append.mp hmem with hmem | hmem
  · exact hearly observer hmem
  · rcases List.mem_cons.mp hmem with rfl | hmem
    · exact Observer.steady_metrics _
    · exact hlate observer hmem

end Machine

end Chip8
