import Chip8.Ranking.Heap

/-!
# Rankings

A ranking lists items from greatest to least, and items of which neither is less
than the other in the order in which they came.  Comparing two items may fail, and
some items may not be comparable in any consistent way.  Which items are compared
then shows in the result, so it is settled here:

* `ascending` takes the run at the start as it is, turned round if it is falling,
  and inserts the other items one after another, each by halving the places where
  it may belong;
* `descending` does so from the last item to the first;
* `leaders` keeps the first places in a heap instead when there are fewer places
  than items.
-/

namespace Chip8.Ranking

variable {Item Error : Type}

/-! ### Runs and insertion -/

/-- How many items continue a run after its last one so far. -/
def followers (less : Item → Item → Except Error Bool) (falling : Bool) (last : Item) :
    List Item → Except Error Nat
  | [] => .ok 0
  | next :: rest => do
      if (← less next last) == falling then return (← followers less falling next rest) + 1
      else return 0

/-- The run at the start of some items, ascending, and the items after it.  Either
every item of the run is less than the one before, or none is. -/
def firstRun (less : Item → Item → Except Error Bool) :
    List Item → Except Error (List Item × List Item)
  | first :: second :: rest => do
      let falling ← less second first
      let more ← followers less falling second rest
      let run := first :: second :: rest.take more
      return (if falling then run.reverse else run, rest.drop more)
  | items => .ok (items, [])

/-- The place of a new item among ascending ones, behind those it is not less
than, when it can only be from `low` up to `high`. -/
def place (less : Item → Item → Except Error Bool) (items : List Item) (item : Item)
    (low high : Nat) : Except Error Nat :=
  if low < high then
    let middle := low + (high - low) / 2
    match items[middle]? with
    | some other => do
        if ← less item other then place less items item low middle
        else place less items item (middle + 1) high
    | none => .ok low
  else .ok low
termination_by high - low
decreasing_by all_goals omega

/-- Ascending items with a new one among them. -/
def insert (less : Item → Item → Except Error Bool) (items : List Item) (item : Item) :
    Except Error (List Item) := do
  let place ← place less items item 0 items.length
  return items.take place ++ item :: items.drop place

/-- Items from least to greatest. -/
def ascending (less : Item → Item → Except Error Bool) (items : List Item) :
    Except Error (List Item) := do
  let (run, rest) ← firstRun less items
  rest.foldlM (insert less) run

/-! ### Rankings -/

/-- Items from greatest to least. -/
def descending (less : Item → Item → Except Error Bool) (items : List Item) :
    Except Error (List Item) :=
  (ascending less items.reverse).map List.reverse

/-- The first of the greatest items. -/
def greatest (less : Item → Item → Except Error Bool) : List Item → Except Error (List Item)
  | [] => .ok []
  | first :: rest => do
      let most ← rest.foldlM
        (fun most next => do return if ← less most next then next else most) first
      return [most]

/-- How the items of a ranking are compared. -/
structure Comparison (Item Error : Type) where
  less : Item → Item → Except Error Bool
  /-- Whether two items need not be compared because they are the same. -/
  same : Item → Item → Bool

namespace Comparison

/-- Whether one numbered item stands behind another one.  Of two that are the same
the later one does. -/
def behind (comparison : Comparison Item Error) (first second : Item × Nat) :
    Except Error Bool :=
  if comparison.same first.1 second.1 then .ok (second.2 < first.2)
  else comparison.less first.1 second.1

/-- Let a numbered item take part in the first places: it takes the place of the
last of them if that one is less. -/
def consider (comparison : Comparison Item Error) (kept : Array (Item × Nat)) (next : Item × Nat) :
    Except Error (Array (Item × Nat)) :=
  match kept[0]? with
  | some last => do
      if ← comparison.less last.1 next.1 then Heap.replaceTop comparison.behind kept next
      else return kept
  | none => .ok kept

/-- The first places of the ranking. -/
def leaders (comparison : Comparison Item Error) (places : Nat) (items : List Item) :
    Except Error (List Item) :=
  if places = 0 then .ok []
  else if places = 1 then greatest comparison.less items
  else if items.length ≤ places then descending comparison.less items
  else do
    let numbered := items.zipIdx
    let kept ← Heap.ofList comparison.behind (numbered.take places)
    let kept ← (numbered.drop places).foldlM comparison.consider kept
    return (← descending comparison.behind kept.toList).map Prod.fst

end Comparison

end Chip8.Ranking
