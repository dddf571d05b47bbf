import Chip8.Op

/-!
# Tallies

A tally counts operations and remembers in which order they were first counted.
Its ranking lists them by falling count; operations with equal counts stay in
the order in which they were first counted.  An operation counted zero times is
still listed.

`leaders` finds the first places of the ranking without ranking everything: it
keeps the best entries seen so far and drops what falls behind them.
-/

namespace Chip8

/-- Operations with their counts, in the order in which they were first counted. -/
abbrev Tally := List (Op × Int)

namespace Tally

/-- The count of an operation. -/
def count (tally : Tally) (op : Op) : Int :=
  match tally.find? fun entry => entry.1 == op with
  | some entry => entry.2
  | none => 0

/-- Change the count of an operation, which comes last if it was not listed. -/
def update (change : Int → Int) (op : Op) : Tally → Tally
  | [] => [(op, change 0)]
  | entry :: rest =>
      if entry.1 = op then (op, change entry.2) :: rest else entry :: update change op rest

/-- Count an operation a number of times more. -/
def add (tally : Tally) (op : Op) (times : Int) : Tally := tally.update (· + times) op

/-- Count several operations. -/
def merge (tally : Tally) (counts : List (Op × Int)) : Tally :=
  counts.foldl (fun tally entry => add tally entry.1 entry.2) tally

/-- The sum of all counts. -/
def total (tally : Tally) : Int := tally.foldl (fun total entry => total + entry.2) 0

/-- Whether an entry may stand before another one in a ranking. -/
def before (first second : Op × Int) : Bool := second.2 ≤ first.2

/-- The entries by falling count. -/
def ranking (tally : Tally) : List (Op × Int) := tally.mergeSort before

/-- Put an entry into a ranked list, behind those with an equal count. -/
def insert (entry : Op × Int) : List (Op × Int) → List (Op × Int)
  | [] => [entry]
  | head :: rest => if before head entry then head :: insert entry rest else entry :: head :: rest

/-- The first places of the ranking. -/
def leaders (tally : Tally) (places : Nat) : List (Op × Int) :=
  -- What falls out of the first places never comes back, so it can be dropped.
  tally.foldl (fun kept entry => (insert entry kept).take places) []

end Tally

end Chip8
