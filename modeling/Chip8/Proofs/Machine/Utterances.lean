import Chip8.Proofs.Machine.Calls

/-!
# Who wrote what

The console of a machine shows what the machine itself logs and what its observers write.
`Machine.Spoken` says of some utterances, each with its speaker, that they are what was
written between two machines.  There are two ways to write: the machine logs a message, or it
tells its observers about an event, and then each of them, in order, says what it says about
it.

What an operation brings about is put together from these (`Spoken.reported`,
`Spoken.finished`, `Spoken.aborted`).  Loading says nothing about the end of a frame
(`Aside.load`, `Aside.loadFile`).
-/

namespace Chip8

/-- Who wrote something: the machine itself, or an observer when a notice was delivered to it. -/
inductive Speaker where
  | machine
  | observer (delivery : Delivery)

/-- Something that was written to the console. -/
structure Utterance where
  speaker : Speaker
  text : String

namespace Event

/-- Whether a frame was finished. -/
def isFinished : Event → Bool
  | .finished _ _ => true
  | .loaded _ | .executed _ _ | .failed _ => false

/-- Whether a frame stopped with a fault. -/
def isFailed : Event → Bool
  | .failed _ => true
  | .loaded _ | .executed _ _ | .finished _ _ => false

end Event

namespace Utterance

/-- The delivery that brought an utterance about. -/
def delivery? (utterance : Utterance) : Option Delivery :=
  match utterance.speaker with
  | .machine => none
  | .observer delivery => some delivery

/-- What the observer in some position wrote about events of some kind, if it is anything. -/
def lineOf? (place : Nat) (kind : Event → Bool) (utterance : Utterance) : Option String :=
  match utterance.speaker with
  | .machine => none
  | .observer delivery =>
      if delivery.position = place ∧ kind delivery.notice.event ∧ utterance.text ≠ "" then
        some utterance.text
      else none

/-- The lines that the observer in some position wrote about events of some kind. -/
def linesOf (place : Nat) (kind : Event → Bool) (utterances : List Utterance) : List String :=
  utterances.filterMap (lineOf? place kind)

variable (place : Nat) (kind : Event → Bool)

@[simp] theorem linesOf_append (first second : List Utterance) :
    linesOf place kind (first ++ second) =
      linesOf place kind first ++ linesOf place kind second :=
  List.filterMap_append

@[simp] theorem linesOf_cons_machine (text : String) (rest : List Utterance) :
    linesOf place kind (⟨.machine, text⟩ :: rest) = linesOf place kind rest := rfl

end Utterance

open Utterance (linesOf)

namespace Moment

/-- What observers say at a moment, the first of them in some position. -/
def answers (moment : Moment) (position : Nat) (observers : List Observer) : List Utterance :=
  (observers.zipIdx position).map fun entry =>
    ⟨.observer ⟨entry.2, moment.notice⟩, entry.1.text moment⟩

variable (moment : Moment)

@[simp] theorem answers_cons (position : Nat) (observer : Observer) (rest : List Observer) :
    moment.answers position (observer :: rest) =
      ⟨.observer ⟨position, moment.notice⟩, observer.text moment⟩ ::
        moment.answers (position + 1) rest := rfl

theorem texts_answers (position : Nat) (observers : List Observer) :
    (moment.answers position observers).map Utterance.text =
      observers.map (·.text moment) := by
  induction observers generalizing position with
  | nil => rfl
  | cons observer rest ih => rw [answers_cons, List.map_cons, List.map_cons, ih]

theorem deliveries_answers (position : Nat) (observers : List Observer) :
    (moment.answers position observers).filterMap Utterance.delivery? =
      moment.notice.toAll position observers.length := by
  induction observers generalizing position with
  | nil => rfl
  | cons observer rest ih =>
      rw [Notice.toAll, List.length_cons, List.range'_succ, List.map_cons]
      exact congrArg (_ :: ·) (ih (position + 1))

theorem linesOf_answers_of_not {kind : Event → Bool} (h : kind moment.event = false)
    (place position : Nat) (observers : List Observer) :
    linesOf place kind (moment.answers position observers) = [] := by
  have hkind : kind moment.notice.event = false := h
  induction observers generalizing position with
  | nil => rfl
  | cons observer rest ih =>
      rw [answers_cons, linesOf, List.filterMap_cons_none (by simp [Utterance.lineOf?, hkind])]
      exact ih (position + 1)

theorem linesOf_answers_of_lt {place position : Nat} (h : place < position) (kind : Event → Bool)
    (observers : List Observer) :
    linesOf place kind (moment.answers position observers) = [] := by
  induction observers generalizing position with
  | nil => rfl
  | cons observer rest ih =>
      have hne : position ≠ place := Nat.ne_of_gt h
      rw [answers_cons, linesOf, List.filterMap_cons_none (by simp [Utterance.lineOf?, hne])]
      exact ih (Nat.lt_succ_of_lt h)

/-- Of all answers one is that of the observer in some position. -/
theorem linesOf_answers {kind : Event → Bool} (hkind : kind moment.event = true)
    {observers : List Observer} {place : Nat} {observer : Observer}
    (h : observers[place]? = some observer) (position : Nat) :
    linesOf (position + place) kind (moment.answers position observers) =
      if observer.text moment = "" then [] else [observer.text moment] := by
  induction observers generalizing place position with
  | nil => contradiction
  | cons head rest ih =>
      cases place with
      | zero =>
          rw [List.getElem?_cons_zero, Option.some.injEq] at h
          subst h
          have hrest := moment.linesOf_answers_of_lt (Nat.lt_succ_self position) kind rest
          have hnotice : kind moment.notice.event = true := hkind
          rw [answers_cons, Nat.add_zero]
          split
          case isTrue htext =>
            rw [linesOf, List.filterMap_cons_none (by simp [Utterance.lineOf?, htext])]
            exact hrest
          case isFalse htext =>
            have hline : Utterance.lineOf? position kind
                ⟨.observer ⟨position, moment.notice⟩, head.text moment⟩ =
                  some (head.text moment) := by
              simp [Utterance.lineOf?, htext, hnotice]
            rw [linesOf, List.filterMap_cons_some hline]
            exact congrArg (_ :: ·) hrest
      | succ place =>
          rw [List.getElem?_cons_succ] at h
          have hplace : position + (place + 1) = position + 1 + place := by omega
          rw [answers_cons, linesOf, List.filterMap_cons_none (by simp [Utterance.lineOf?]), hplace]
          exact ih h (position + 1)

end Moment

namespace Machine

/-! What a frame carried out is told without the clock or the count of frames changing. -/

@[simp] theorem clock_reported (machine : Machine) (keypad : UInt16) :
    (machine.reported keypad).clock = machine.clock := by
  rw [reported, told, ran]

@[simp] theorem frames_reported (machine : Machine) (keypad : UInt16) :
    (machine.reported keypad).frames = machine.frames := by
  rw [reported, told, ran]

/-- What the observers of a machine say at a moment. -/
def chorus (machine : Machine) (moment : Moment) : List Utterance :=
  moment.answers 0 machine.observers

section Chorus

variable (machine : Machine) {moment : Moment} {kind : Event → Bool} {place : Nat}

theorem linesOf_chorus_of_not (h : kind moment.event = false) :
    linesOf place kind (machine.chorus moment) = [] :=
  moment.linesOf_answers_of_not h place 0 machine.observers

theorem linesOf_chorus (h : kind moment.event = true) {observer : Observer}
    (hplace : machine.observers[place]? = some observer) :
    linesOf place kind (machine.chorus moment) =
      if observer.text moment = "" then [] else [observer.text moment] := by
  have hanswers := moment.linesOf_answers h hplace 0
  rw [Nat.zero_add] at hanswers
  exact hanswers

theorem linesOf_chorus_of_silent {observer : Observer}
    (hplace : machine.observers[place]? = some observer) (hsilent : observer.text moment = "") :
    linesOf place kind (machine.chorus moment) = [] := by
  cases hkind : kind moment.event with
  | false => exact machine.linesOf_chorus_of_not hkind
  | true => rw [machine.linesOf_chorus hkind hplace, if_pos hsilent]

theorem chorus_ran (keypad : UInt16) (moment : Moment) :
    (machine.ran keypad).chorus moment = machine.chorus moment := by
  rw [chorus, chorus, ran]

end Chorus

/-- Between two machines some utterances were written, one after another. -/
inductive Spoken : Machine → List Utterance → Machine → Prop where
  /-- What a machine counts changes without a word. -/
  | counted (machine : Machine) (state : State) (frames : Nat) (instructions : Int) :
      Spoken machine [] { machine with state, frames, instructions }
  | waited (machine : Machine) (now : Float) :
      Spoken machine [] { machine with clock := .real now }
  | logged (machine : Machine) (level : Console.Level) (message : String) :
      Spoken machine [⟨.machine, machine.logger.text machine.clock level message⟩]
        (machine.logged level message)
  | told (machine : Machine) (event : Event) :
      Spoken machine (machine.chorus (machine.moment event)) (machine.told event)
  | trans {first second third : Machine} {utterances more : List Utterance}
      (h : Spoken first utterances second) (hnext : Spoken second more third) :
      Spoken first (utterances ++ more) third

namespace Spoken

variable {before after : Machine} {utterances : List Utterance}

/-- The console shows what was said, and nothing besides. -/
theorem transcript_eq (h : Spoken before utterances after) :
    after.transcript = before.transcript ++ String.join (utterances.map Utterance.text) := by
  induction h with
  | counted machine state frames instructions =>
      rw [List.map_nil, String.join_nil, String.append_empty]
  | waited machine now => rw [List.map_nil, String.join_nil, String.append_empty]
  | logged machine level message =>
      rw [List.map_singleton, String.join_cons, String.join_nil, String.append_empty]
      rfl
  | told machine event =>
      rw [chorus, Moment.texts_answers]
      rfl
  | trans h hnext ih ihnext =>
      rw [ihnext, ih, List.map_append, String.join_append, String.append_assoc]

/-- Each observer had its say on each notice that it got, in turn. -/
theorem deliveries_eq (h : Spoken before utterances after) :
    after.deliveries = before.deliveries ++ utterances.filterMap Utterance.delivery? := by
  induction h with
  | counted machine state frames instructions => rw [List.filterMap_nil, List.append_nil]
  | waited machine now => rw [List.filterMap_nil, List.append_nil]
  | logged machine level message => exact (List.append_nil _).symm
  | told machine event =>
      rw [chorus, Moment.deliveries_answers]
      rfl
  | trans h hnext ih ihnext => rw [ihnext, ih, List.filterMap_append, List.append_assoc]

theorem summary_getElem? (h : Spoken before utterances after) {place : Nat}
    {summary : Console.Summary} (hplace : before.observers[place]? = some (.summary summary)) :
    after.observers[place]? = some (.summary summary) := by
  induction h with
  | counted machine state frames instructions => exact hplace
  | waited machine now => exact hplace
  | logged machine level message => exact hplace
  | told machine event =>
      rw [observers_told, List.getElem?_map, hplace]
      rfl
  | trans h hnext ih ihnext => exact ihnext (ih hplace)

theorem reported (machine : Machine) (keypad : UInt16) :
    let stats := (machine.state.runFrame keypad).2
    Spoken machine
      (machine.chorus
        ((machine.ran keypad).moment (.executed stats.opCounts stats.elapsed.toInt)))
      (machine.reported keypad) := by
  intro stats
  have hran : Spoken machine [] (machine.ran keypad) := counted machine _ _ _
  have htold := told (machine.ran keypad) (.executed stats.opCounts stats.elapsed.toInt)
  rw [chorus_ran] at htold
  exact hran.trans htold

theorem finished (machine : Machine) (instructions elapsed : Int) :
    ∃ text, Spoken machine
      (⟨.machine, text⟩ :: machine.chorus
        ((machine.finished instructions elapsed).moment (.finished instructions elapsed)))
      (machine.finished instructions elapsed) := by
  -- The frame counts before it is logged, and is logged before the observers have their say.
  have hcounted : Spoken machine [] { machine with frames := machine.frames + 1 } :=
    counted machine _ _ _
  exact ⟨_, (hcounted.trans (logged _ _ _)).trans (told _ _)⟩

theorem aborted (machine : Machine) (instructions : Int) (fault : Fault) :
    ∃ text, Spoken machine
      (⟨.machine, text⟩ :: machine.chorus (machine.moment (.failed fault)))
      (machine.aborted instructions fault) :=
  ⟨_, (logged machine _ _).trans (told _ _)⟩

end Spoken

/-- Between two machines nothing was said about the end of a frame. -/
def Aside (before after : Machine) : Prop :=
  ∃ utterances, Spoken before utterances after ∧
    ∀ place, linesOf place Event.isFinished utterances = [] ∧
      linesOf place Event.isFailed utterances = []

namespace Aside

variable {machine : Machine}

theorem of_silent {before after : Machine} (h : Spoken before [] after) : Aside before after :=
  ⟨[], h, fun _ => ⟨rfl, rfl⟩⟩

theorem refl (machine : Machine) : Aside machine machine := of_silent (.counted machine _ _ _)

theorem trans {first second third : Machine} (h : Aside first second)
    (hnext : Aside second third) : Aside first third := by
  obtain ⟨utterances, hspoken, hlines⟩ := h
  obtain ⟨more, hmore, hrest⟩ := hnext
  refine ⟨utterances ++ more, hspoken.trans hmore, fun place => ⟨?_, ?_⟩⟩
  · rw [Utterance.linesOf_append, (hlines place).1, (hrest place).1, List.nil_append]
  · rw [Utterance.linesOf_append, (hlines place).2, (hrest place).2, List.nil_append]

theorem logged (machine : Machine) (level : Console.Level) (message : String) :
    Aside machine (machine.logged level message) :=
  ⟨_, .logged machine level message, fun _ => ⟨rfl, rfl⟩⟩

theorem told (machine : Machine) {event : Event} (hfinished : event.isFinished = false)
    (hfailed : event.isFailed = false) : Aside machine (machine.told event) :=
  ⟨_, .told machine event, fun _ =>
    ⟨machine.linesOf_chorus_of_not hfinished, machine.linesOf_chorus_of_not hfailed⟩⟩

theorem refused (machine : Machine) (failure : Failure) :
    Aside machine (machine.refused failure).1 := by
  cases failure with
  | fault fault => exact logged machine _ _
  | _ => exact refl machine

/-- What loading comes to says nothing about the end of a frame. -/
theorem of_loaded {program : Program} {outcome : Outcome} (h : machine.Loaded program outcome) :
    Aside machine outcome.1 := by
  have installed (state : State) : Aside machine { machine with state } :=
    of_silent (.counted machine _ _ _)
  cases h with
  | refused => exact refused machine _
  | announced => exact ((installed _).trans (logged _ _ _)).trans (told _ rfl rfl)
  | unlogged => exact installed _
  | untold => exact (installed _).trans (logged _ _ _)

theorem load (h : machine.Steady) (program : Program) :
    Aside machine (machine.load program).1 :=
  of_loaded (h.loaded program)

theorem loadFile (h : machine.Steady) (file : ProgramFile) :
    Aside machine (machine.loadFile file).1 := by
  rw [h.loadFile_eq]
  cases file.bytes with
  | error failure => exact refl machine
  | ok bytes =>
      cases file.name with
      | error failure => exact refl machine
      | ok name => exact (logged machine _ _).trans (load (h.logged _ _) file.program)

end Aside

end Machine

end Chip8
