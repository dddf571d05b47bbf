import Chip8.Console.Summary
import Chip8.Metrics
import Chip8.State

/-!
# Observers

An observer is told about every event of a machine.  It may keep what it was told, write to
the console, change what the machine owns and counts, or fail, which ends the round: later
observers are not told.  What was delivered to whom is part of the outcome of a round.

The library has observers of three kinds, which leave the machine alone.  A host may add
listeners of its own making, which do what they like.
-/

namespace Chip8

/-- What a machine owns and counts, which is what its observers find. -/
structure Core where
  state : State
  /-- Frames finished so far. -/
  frames : Nat
  /-- Instructions carried out so far. -/
  instructions : Int

/-- An event, with what the clock shows and the machine at the time. -/
structure Moment where
  clock : Argument
  core : Core
  event : Event

/-- What is told at a moment. -/
def Moment.notice (moment : Moment) : Notice where
  event := moment.event
  frames := moment.core.frames
  instructions := moment.core.instructions
  pc := moment.core.state.pc.toNat
  tone := moment.core.state.tone

/-- What an observer does when it is told something: what it writes, what it makes of the
machine, and why it failed if it did. -/
structure Response where
  text : String
  core : Core
  failure : Option Failure

/-- An observer of a host's own making, which goes by what it is told and by all that it was
told before. -/
structure Listener where
  past : List Moment
  respond : List Moment → Moment → Response

/-- An observer of a machine. -/
inductive Observer where
  /-- Does nothing with what it is told. -/
  | passive
  /-- Adds up what it is told. -/
  | metrics (metrics : Metrics)
  /-- Logs summaries. -/
  | summary (summary : Console.Summary)
  /-- Does what a host has it do. -/
  | host (listener : Listener)

namespace Observer

/-- What an observer does at a moment. -/
def respond (observer : Observer) (moment : Moment) : Response :=
  match observer with
  | passive | metrics _ => ⟨"", moment.core, none⟩
  | summary settings =>
      match settings.react moment.clock moment.notice with
      | .ok text => ⟨text, moment.core, none⟩
      | .error failure => ⟨"", moment.core, some failure⟩
  | host listener => listener.respond listener.past moment

/-- An observer after a moment, even if it failed. -/
def heard (moment : Moment) : Observer → Observer
  | metrics sums => metrics (sums.record moment.event)
  | host listener => host { listener with past := listener.past ++ [moment] }
  | observer => observer

end Observer

/-- A notice that reached the observer in some position. -/
structure Delivery where
  position : Nat
  notice : Notice
  deriving DecidableEq, Repr

/-- What telling the observers came to. -/
structure Round where
  observers : List Observer
  /-- What the observers have made of the machine. -/
  core : Core
  /-- What the observers wrote. -/
  written : String
  deliveries : List Delivery
  /-- Why the round ended early. -/
  failure : Option Failure

/-- Tell observers one after another about an event, the first of them in the given
position.  Each finds the machine as those before it left it. -/
def Round.tell (clock : Argument) (event : Event) (core : Core) (position : Nat) :
    List Observer → Round
  | [] => ⟨[], core, "", [], none⟩
  | observer :: rest =>
      let moment : Moment := ⟨clock, core, event⟩
      let response := observer.respond moment
      let delivery : Delivery := ⟨position, moment.notice⟩
      match response.failure with
      -- The observer that failed did get the notice.
      | some failure =>
          ⟨observer.heard moment :: rest, response.core, response.text, [delivery], some failure⟩
      | none =>
          let round := tell clock event response.core (position + 1) rest
          { round with
            observers := observer.heard moment :: round.observers
            written := response.text ++ round.written
            deliveries := delivery :: round.deliveries }

end Chip8
