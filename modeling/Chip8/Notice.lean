import Chip8.Fault
import Chip8.Op

/-!
# Notices

A machine tells its observers what happens to it.  A notice consists of the
event and of what the machine's counters, program counter and buzzer showed when
it was sent.
-/

namespace Chip8

/-- What can happen to a machine. -/
inductive Event where
  /-- A program of so many bytes was loaded. -/
  | loaded (size : Int)
  /-- A frame, finished or not, carried out these operations in so many
  microseconds. -/
  | executed (counts : List (Op × Int)) (elapsed : Int)
  /-- A frame was finished. -/
  | finished (instructions elapsed : Int)
  /-- A frame stopped with a fault. -/
  | failed (fault : Fault)
  deriving DecidableEq, Repr

/-- An event and what the machine showed at the time. -/
structure Notice where
  event : Event
  /-- Frames finished so far. -/
  frames : Int
  /-- Instructions carried out so far. -/
  instructions : Int
  pc : Int
  tone : Bool
  deriving DecidableEq, Repr

end Chip8
