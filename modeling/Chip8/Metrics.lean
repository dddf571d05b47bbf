import Chip8.Notice
import Chip8.Number.Double
import Chip8.Tally

/-!
# Metrics

Metrics add up what a machine reports: which operations it carried out, how much
time they took, how many instructions every finished frame had, and which faults
arose.  Frames that fail count towards operations and time but not towards
finished frames.
-/

namespace Chip8

/-- What has been added up so far. -/
structure Metrics where
  tally : Tally
  /-- The instructions of every finished frame, oldest first. -/
  frames : List Int
  /-- Microseconds of emulated time. -/
  elapsed : Int
  /-- The faults, oldest first. -/
  faults : List Fault
  deriving DecidableEq, Repr

/-- The instructions of the finished frames, in short. -/
structure Spread where
  /-- The bits of the mean as a double, unless it is beyond the largest one. -/
  mean : Option UInt64
  least : Int
  most : Int
  last : Int
  deriving DecidableEq, Repr

/-- Metrics, in short. -/
structure Statistics where
  frames : Nat
  instructions : Int
  elapsed : Int
  faults : Nat
  /-- The operations by falling count. -/
  ops : List (Op × Int)
  /-- Nothing before the first finished frame. -/
  spread : Option Spread
  deriving DecidableEq, Repr

namespace Metrics

/-- Metrics that have seen nothing. -/
def empty : Metrics := ⟨[], [], 0, []⟩

/-- Add up an event. -/
def record (metrics : Metrics) : Event → Metrics
  | .loaded _ => metrics
  | .executed counts elapsed =>
      { metrics with
        tally := metrics.tally.merge counts
        elapsed := metrics.elapsed + elapsed }
  | .finished instructions _ => { metrics with frames := metrics.frames ++ [instructions] }
  | .failed fault => { metrics with faults := metrics.faults ++ [fault] }

/-- The spread of some frames. -/
def spread : List Int → Option Spread
  | [] => none
  | first :: rest =>
      let frames := first :: rest
      some {
        mean := Number.quotientBits (frames.foldl (· + ·) 0) frames.length
        least := rest.foldl (fun least next => if next < least then next else least) first
        most := rest.foldl (fun most next => if most < next then next else most) first
        last := frames.getLast (List.cons_ne_nil first rest) }

/-- Metrics, in short. -/
def statistics (metrics : Metrics) : Statistics where
  frames := metrics.frames.length
  instructions := metrics.tally.total
  elapsed := metrics.elapsed
  faults := metrics.faults.length
  ops := metrics.tally.ranking
  spread := spread metrics.frames

end Metrics

end Chip8
