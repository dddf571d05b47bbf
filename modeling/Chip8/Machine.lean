import Chip8.Frame
import Chip8.Observer
import Chip8.Program.File

/-!
# Machines

A machine owns a state and drives it for a host: it loads programs and runs
frames, logs what it does and tells its observers.

An operation yields the machine as it is afterwards and, if it failed, why.  A
failure does not undo what was done before it.  In particular a frame that stops
with a fault keeps the instructions before the fault, counts them, and only then
reports the fault.  A message that cannot be written ends the operation too.
-/

namespace Chip8

open Console (Logger)

/-- A machine in the hands of a host. -/
structure Machine extends Core where
  logger : Logger
  observers : List Observer
  /-- What the host's clock shows, in seconds. -/
  clock : Argument
  /-- Everything written to the console so far. -/
  transcript : String
  /-- Every notice that reached an observer so far. -/
  deliveries : List Delivery

namespace Machine

/-- What an operation on a machine comes to: the machine afterwards, and why the
operation failed if it did. -/
abbrev Outcome := Machine × Option Failure

/-- A machine that has done nothing. -/
def fresh (state : State) (logger : Logger) (observers : List Observer) (clock : Argument) :
    Machine where
  state
  frames := 0
  instructions := 0
  logger
  observers
  clock
  transcript := ""
  deliveries := []

/-- A machine for a seed that a host hands over. -/
def create (seed : Argument) (logger : Logger) (observers : List Observer) (clock : Argument) :
    Except Failure Machine :=
  (State.create seed).map fun state => fresh state logger observers clock

/-! ### Outcomes -/

/-- Let an operation fail. -/
def fail (machine : Machine) (failure : Failure) : Outcome := (machine, some failure)

/-- Go on with an operation unless it has failed. -/
def Outcome.andThen (outcome : Outcome) (next : Machine → Outcome) : Outcome :=
  match outcome with
  | (machine, none) => next machine
  | (machine, some failure) => (machine, some failure)

@[simp] theorem Outcome.andThen_none (machine : Machine) (next : Machine → Outcome) :
    Outcome.andThen (machine, none) next = next machine := rfl

/-! ### Logging and telling -/

/-- Log a message. -/
def log (machine : Machine) (level : Console.Level) (message : String) : Outcome :=
  match machine.logger.write machine.clock level message with
  | .ok text => ({ machine with transcript := machine.transcript ++ text }, none)
  | .error failure => (machine, some failure)

/-- The moment of an event that happens now. -/
def moment (machine : Machine) (event : Event) : Moment := ⟨machine.clock, machine.toCore, event⟩

/-- Tell the observers about an event. -/
def tell (machine : Machine) (event : Event) : Outcome :=
  let round := Round.tell machine.clock event machine.toCore 0 machine.observers
  ({ machine with
      toCore := round.core
      observers := round.observers
      transcript := machine.transcript ++ round.written
      deliveries := machine.deliveries ++ round.deliveries },
    round.failure)

/-- What the last observer that adds up has added up. -/
def metrics (machine : Machine) : Except Failure Metrics :=
  let sums := machine.observers.reverse.findSome? fun observer =>
    match observer with
    | .metrics sums => some sums
    | .passive | .summary _ | .host _ => none
  match sums with
  | some sums => .ok sums
  | none => .error .notRecorded

/-! ### Loading -/

/-- Take over the state with a program loaded, or log the fault that prevented
it. -/
def install (machine : Machine) (loaded : Except Failure State) : Outcome :=
  match loaded with
  | .ok state => ({ machine with state }, none)
  | .error (.fault fault) => (machine.log .error fault.message).andThen (·.fail (.fault fault))
  | .error failure => machine.fail failure

/-- Log and tell that a program was loaded, as far as it has a length to log and to tell. -/
def announce (machine : Machine) (program : Program) : Outcome :=
  match program.loggedLength with
  | .error failure => machine.fail failure
  | .ok size =>
      (machine.log .info s!"Loaded {size} bytes at 0x200").andThen fun machine =>
        match program.toldLength with
        | .error failure => machine.fail failure
        | .ok size => machine.tell (.loaded size)

/-- Load what a host hands over for a program.  It is in memory before its length is asked
for. -/
def load (machine : Machine) (program : Program) : Outcome :=
  (machine.install (machine.state.loadProgram program)).andThen (·.announce program)

/-- Load a file, which is read before its name is logged. -/
def loadFile (machine : Machine) (file : ProgramFile) : Outcome :=
  match file.bytes, file.name with
  | .error failure, _ => machine.fail failure
  | .ok _, .error failure => machine.fail failure
  | .ok _, .ok name =>
      (machine.log .info ("Reading ROM '" ++ name ++ "'")).andThen (·.load file.program)

/-! ### Frames -/

/-- Finish a frame: count it, log it and tell the observers. -/
def finish (machine : Machine) (instructions elapsed : Int) : Outcome :=
  let machine := { machine with frames := machine.frames + 1 }
  (machine.log .debug
    s!"Frame {machine.frames}: {instructions} instructions, {elapsed}us").andThen
      (·.tell (.finished instructions elapsed))

/-- Report the fault that stopped a frame, and fail with it. -/
def abort (machine : Machine) (instructions : Int) (fault : Fault) : Outcome :=
  let halted := s!"Frame {machine.frames} halted after {instructions} instructions: "
  ((machine.log .error (halted ++ fault.message)).andThen
    (·.tell (.failed fault))).andThen (·.fail (.fault fault))

/-- Run one frame with the keys of a mask held. -/
def runMask (machine : Machine) (keypad : UInt16) : Outcome :=
  let (state, stats) := machine.state.runFrame keypad
  let executed := stats.instructions.toInt
  let elapsed := stats.elapsed.toInt
  -- What was carried out counts, also in a frame that stops with a fault.
  let machine := { machine with state, instructions := machine.instructions + executed }
  (machine.tell (.executed stats.opCounts elapsed)).andThen fun machine =>
    -- Its observers may have changed where the machine stands.
    match stats.fault? machine.state with
    | some fault => machine.abort executed fault
    | none => machine.finish executed elapsed

/-- Run one frame with the keys of a mask that a host hands over. -/
def runFrame (machine : Machine) (mask : Mask) : Outcome :=
  match mask.toKeypad with
  | .error failure => machine.fail failure
  | .ok keypad => machine.runMask keypad

/-- Run frames one after another until one fails, the mask of each given by its
number; the frames run so far are already counted in `done`.  Yields the number
of frames that came through. -/
def runFramesFrom (masks : Nat → Except Failure Mask) (done : Nat) (machine : Machine) :
    Nat → Outcome × Nat
  | 0 => ((machine, none), done)
  | left + 1 =>
      match masks done with
      | .error failure => (machine.fail failure, done)
      | .ok mask =>
          match machine.runFrame mask with
          | (machine, none) => runFramesFrom masks (done + 1) machine left
          | (machine, some failure) => ((machine, some failure), done)

/-- Run a number of frames, stopping at the first that fails.  A negative number
runs none. -/
def runFrames (machine : Machine) (masks count : Argument) : Outcome × Nat :=
  match count.integer? with
  | some count => runFramesFrom masks.maskAt 0 machine count.toNat
  | none => (machine.fail .notNumber, 0)

end Machine

end Chip8
