import Chip8.Program
import Chip8.Proofs.Frame.Simulation

/-!
# Sessions

A host drives a machine by requests: it loads programs and runs frames, in any order.
A request that is refused, because the program is too long or the mask is not one,
leaves the state as it was; a frame that a fault ends keeps what was carried out
before the fault.

A session is a state and the history that led to it, as one stride for every
instruction that was carried out since the session was opened.  The strides of one
frame are linked; between two frames the state may change by what loading a program
and beginning a frame do to it.

What loading, beginning a frame and taking a step preserve, `Session.Invariant`,
holds after every request and before and after every instruction of a session
(`Session.Invariant.throughout`).
-/

namespace Chip8

/-- Loading a program changes memory and nothing else. -/
theorem State.eq_of_load {state next : State} {program : List UInt8}
    (h : state.load program = .ok next) : next = { state with memory := next.memory } := by
  unfold State.load at h
  split at h
  · contradiction
  · simp only [Except.ok.injEq] at h
    rw [← h]

/-- What a host hands over for a program is loaded if it has bytes that are. -/
theorem State.loadProgram_eq_ok_iff {state next : State} {program : Program} :
    state.loadProgram program = .ok next ↔
      ∃ bytes, program.bytes = .ok bytes ∧ state.load bytes = .ok next := by
  unfold State.loadProgram
  cases program.bytes with
  | error failure => simp [bind, Except.bind]
  | ok bytes =>
      cases hload : state.load bytes with
      | error fault => simp [hload, bind, Except.bind, Except.mapError]
      | ok loaded => simp [hload, bind, Except.bind, Except.mapError]

theorem State.eq_of_loadProgram {state next : State} {program : Program}
    (h : state.loadProgram program = .ok next) :
    next = { state with memory := next.memory } := by
  obtain ⟨bytes, -, hload⟩ := State.loadProgram_eq_ok_iff.mp h
  exact State.eq_of_load hload

/-- What a host asks for. -/
inductive Request where
  | load (program : Program)
  | frame (mask : Mask)

/-- A state and the instructions that were carried out on the way to it, oldest
first. -/
structure Session where
  state : State
  history : List Stride

namespace Session

/-- A session in which nothing has happened. -/
def opening (state : State) : Session := ⟨state, []⟩

/-- Go on to another state by some instructions. -/
def extend (session : Session) (state : State) (strides : List Stride) : Session where
  state
  history := session.history ++ strides

theorem state_extend (session : Session) (state : State) (strides : List Stride) :
    (session.extend state strides).state = state := rfl

theorem history_extend (session : Session) (state : State) (strides : List Stride) :
    (session.extend state strides).history = session.history ++ strides := rfl

/-- An instruction of an extended session is one of the new instructions or was in the
history before. -/
theorem extend_split {session : Session} {state : State} {strides past rest : List Stride}
    {stride : Stride} (h : (session.extend state strides).history = past ++ stride :: rest) :
    (∃ early, past = session.history ++ early ∧ strides = early ++ stride :: rest) ∨
      ∃ late, session.history = past ++ stride :: late := by
  rw [history_extend] at h
  rcases List.append_eq_append_iff.mp h with ⟨early, hpast, hstrides⟩ | ⟨late, hold, hnew⟩
  · exact Or.inl ⟨early, hpast, hstrides⟩
  · cases late with
    | nil =>
        refine Or.inl ⟨[], ?_, hnew.symm⟩
        simpa using hold.symm
    | cons first late =>
        rw [List.cons_append, List.cons.injEq] at hnew
        exact Or.inr ⟨late, by rw [hold, hnew.1]⟩

/-- Run one frame with the given keys held. -/
def frame (session : Session) (keypad : UInt16) : Session :=
  session.extend (session.state.runFrame keypad).1
    (session.state.beginFrame keypad).walk.strides

/-- Do what a host asks for, unless it is refused. -/
def perform (session : Session) : Request → Session
  | .load program =>
      match session.state.loadProgram program with
      | .ok state => { session with state }
      | .error _ => session
  | .frame mask =>
      match mask.toKeypad with
      | .ok keypad => session.frame keypad
      | .error _ => session

/-- Do everything that a host asks for, one after another. -/
def run (session : Session) (requests : List Request) : Session :=
  requests.foldl perform session

/-- A property of a state and of the instructions before it that neither a request nor
an instruction breaks. -/
structure Invariant (holds : State → List Stride → Prop) : Prop where
  load : ∀ {state next : State} {past : List Stride} {program : Program},
    holds state past → state.loadProgram program = .ok next → holds next past
  beginFrame : ∀ {state : State} {past : List Stride} (keypad : UInt16),
    holds state past → holds (state.beginFrame keypad) past
  step : ∀ {state next : State} {past : List Stride} {instruction : Instruction},
    holds state past → state.step = .ok (next, instruction) →
      holds next (past ++ [⟨state, instruction, next⟩])

/-- A property holds at the end of a session and before each of its instructions, which
are steps. -/
structure Throughout (holds : State → List Stride → Prop) (session : Session) : Prop where
  last : holds session.state session.history
  before : ∀ {past rest : List Stride} {stride : Stride},
    session.history = past ++ stride :: rest → holds stride.before past
  step : ∀ {past rest : List Stride} {stride : Stride},
    session.history = past ++ stride :: rest →
      stride.before.step = .ok (stride.after, stride.instruction)

namespace Invariant

variable {holds : State → List Stride → Prop}

theorem linked (inv : Invariant holds) {state last : State} {strides : List Stride}
    (hlinked : Linked state strides last) {past : List Stride} (h : holds state past) :
    holds last (past ++ strides) := by
  induction hlinked generalizing past with
  | nil state =>
      rw [List.append_nil]
      exact h
  | cons hstep _ ih =>
      have hrest := ih (inv.step h hstep)
      rwa [List.append_assoc] at hrest

theorem extend (inv : Invariant holds) {session : Session} (h : Throughout holds session)
    {start last : State} (hstart : holds start session.history) {strides : List Stride}
    (hlinked : Linked start strides last) : Throughout holds (session.extend last strides) := by
  refine ⟨?_, ?_, ?_⟩
  · rw [state_extend, history_extend]
    exact inv.linked hlinked hstart
  · intro past rest stride hhistory
    rcases extend_split hhistory with ⟨early, rfl, rfl⟩ | ⟨late, hold⟩
    · exact inv.linked hlinked.split.1 hstart
    · exact h.before hold
  · intro past rest stride hhistory
    rcases extend_split hhistory with ⟨early, rfl, rfl⟩ | ⟨late, hold⟩
    · exact hlinked.split.2.1
    · exact h.step hold

theorem frame (inv : Invariant holds) {session : Session} (h : Throughout holds session)
    (keypad : UInt16) : Throughout holds (session.frame keypad) := by
  rw [Session.frame, State.fst_runFrame]
  exact inv.extend h (inv.beginFrame keypad h.last)
    (session.state.beginFrame keypad).linked_walk

theorem perform (inv : Invariant holds) {session : Session} (h : Throughout holds session)
    (request : Request) : Throughout holds (session.perform request) := by
  cases request with
  | load program =>
      simp only [Session.perform]
      cases hload : session.state.loadProgram program with
      | error failure => exact h
      | ok next => exact ⟨inv.load h.last hload, h.before, h.step⟩
  | frame mask =>
      simp only [Session.perform]
      cases mask.toKeypad with
      | error failure => exact h
      | ok keypad => exact inv.frame h keypad

/-- An invariant that holds when a session is opened holds throughout, whatever the host
asks for. -/
theorem throughout (inv : Invariant holds) {state : State} (h : holds state [])
    (requests : List Request) : Throughout holds ((opening state).run requests) := by
  have hrun : ∀ session, Throughout holds session → Throughout holds (session.run requests) := by
    induction requests with
    | nil => exact fun _ h => h
    | cons request requests ih => exact fun session h => ih _ (inv.perform h request)
  apply hrun
  refine ⟨h, ?_, ?_⟩
  · intro past rest stride hhistory
    simp [opening] at hhistory
  · intro past rest stride hhistory
    simp [opening] at hhistory

end Invariant

end Session

end Chip8
