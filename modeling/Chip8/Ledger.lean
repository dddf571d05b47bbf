import Chip8.Argument.Order
import Chip8.Argument.Parts
import Chip8.Op
import Chip8.Ranking
import Chip8.Tally.Places

/-!
# Ledgers

A ledger adds up reports that a host makes in place of a machine.  It keeps the
same sums as `Metrics` does, but the values in the reports are of no fixed type
and show in the statistics as they were given.  Values that cannot be added,
compared or averaged make the ledger fail.
-/

namespace Chip8

/-- How often an operation was carried out, as far as a host has said. -/
structure Count where
  value : Argument
  /-- Whether the host gave the value as it is, so that it is no sum. -/
  given : Bool

/-- What has been added up so far. -/
structure Ledger where
  /-- Operations with their counts, in the order in which they were first
  counted. -/
  counts : List (Op × Count)
  /-- The emulated time. -/
  elapsed : Quantity
  /-- The instructions of every finished frame, oldest first. -/
  frames : List Argument
  faults : Nat

namespace Ledger

open Argument (orInfinite)

/-- A ledger without reports. -/
def empty : Ledger := ⟨[], .whole 0, [], 0⟩

/-! ### Reports -/

/-- Set the count of an operation, which comes last if it was not listed. -/
def setCount (op : Op) (count : Count) : List (Op × Count) → List (Op × Count)
  | [] => [(op, count)]
  | entry :: rest =>
      if entry.1 = op then (op, count) :: rest else entry :: setCount op count rest

/-- The operation that an argument names. -/
def opOfName : Argument → Except Failure Op
  | .text name =>
      match Op.ofName? name with
      | some op => .ok op
      | none => .error .entryMissing
  | .list _ | .table _ => .error .notNumber
  | _ => .error .entryMissing

/-- The counts that a host reports, as pairs of a name and a count.  A later count
of an operation replaces an earlier one. -/
def readCounts (report : Argument) : Except Failure (List (Op × Count)) := do
  (← report.parts).foldlM
    (fun counts entry => do
      let (name, count) ← entry.pair
      return setCount (← opOfName name) ⟨count, true⟩ counts)
    []

/-- Count an operation a number of times more. -/
def addCount (counts : List (Op × Count)) (entry : Op × Count) :
    Except Failure (List (Op × Count)) := do
  let old := (counts.find? fun listed => listed.1 == entry.1).map fun listed => listed.2.value
  return setCount entry.1 ⟨← entry.2.value.plus (old.getD (.integer 0)), false⟩ counts

/-- Report that operations were carried out in some time.  The first counts of all
are taken over as they are. -/
def executed (ledger : Ledger) (counts : List (Op × Count)) (elapsed : Argument) :
    Except Failure Ledger := do
  let counts ← if ledger.counts.isEmpty then .ok counts else counts.foldlM addCount ledger.counts
  let elapsed ← orInfinite (ledger.elapsed.plus (← elapsed.toQuantity))
  return { ledger with counts, elapsed }

/-- Report that a frame was finished. -/
def finished (ledger : Ledger) (instructions : Argument) : Ledger :=
  { ledger with frames := ledger.frames ++ [instructions] }

/-- Report that a frame failed. -/
def failed (ledger : Ledger) : Ledger := { ledger with faults := ledger.faults + 1 }

/-! ### Ranking -/

/-- Whether a count is a sum that is no number.  Such a count is the same as no
other one. -/
def isLost (count : Count) : Bool := !count.given && count.value.isUndefined

/-- Entries compare by their counts alone. -/
def byCount : Ranking.Comparison (Op × Count) Failure where
  less first second := first.2.value.less second.2.value
  same first second :=
    !isLost first.2 && !isLost second.2 && first.2.value.same second.2.value

/-- An entry as it shows in a ranking. -/
def shown (entry : Op × Count) : Op × Argument := (entry.1, entry.2.value)

/-- The entries by falling count. -/
def ranking (ledger : Ledger) : Except Failure (List (Op × Argument)) :=
  return (← Ranking.descending byCount.less ledger.counts).map shown

/-- As many first places of the ranking as a host asks for. -/
def leaders (ledger : Ledger) (places : Argument) : Except Failure (List (Op × Argument)) := do
  match ← places.toPlaces with
  | none => ledger.ranking
  | some places => return (← byCount.leaders places ledger.counts).map shown

/-! ### Statistics -/

/-- The instructions of the finished frames, in short. -/
structure Spread where
  /-- The bits of the mean as a double. -/
  mean : UInt64
  least : Argument
  most : Argument
  last : Argument

/-- A ledger, in short. -/
structure Statistics where
  frames : Nat
  instructions : Argument
  elapsed : Quantity
  faults : Nat
  /-- The operations by falling count. -/
  ops : List (Op × Argument)
  /-- Nothing before the first finished frame. -/
  spread : Option Spread

/-- Whether one argument is a smaller number than another one. -/
def smaller (first second : Argument) : Bool :=
  match first.toQuantity?, second.toQuantity? with
  | some first, some second => first.less second
  | _, _ => false

/-- The spread of some frames.  Of equal extremes the first one shows. -/
def spread : List Argument → Except Failure (Option Spread)
  | [] => .ok none
  | first :: rest => do
      let mean ← Argument.meanBits (first :: rest)
      return some {
        mean
        least := rest.foldl (fun least next => if smaller next least then next else least) first
        most := rest.foldl (fun most next => if smaller most next then next else most) first
        last := rest.getLastD first }

/-- A ledger, in short.  The counts are added up before they are ranked. -/
def statistics (ledger : Ledger) : Except Failure Statistics := do
  let instructions ← Argument.total (ledger.counts.map fun entry => entry.2.value)
  let ops ← ledger.ranking
  return {
    frames := ledger.frames.length
    instructions
    elapsed := ledger.elapsed
    faults := ledger.faults
    ops
    spread := ← spread ledger.frames }

end Ledger

end Chip8
