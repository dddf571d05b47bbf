/-!
# Heaps

A heap keeps items in an array such that no item is less than the one above it:
above place `i` is place `(i - 1) / 2`, and at the top, in place zero, a least
item.  Comparing two items may fail, and the heap with it.

An item that has come to a new place first sinks to the bottom, past the lesser of
the two items below it each time, and then rises to where it belongs.
-/

namespace Chip8.Ranking.Heap

variable {Item Error : Type}

/-- The place of the lesser of the two items below a place, or the only one. -/
def lesserBelow (less : Item → Item → Except Error Bool) (heap : Array Item) (place : Nat) :
    Except Error Nat :=
  let left := 2 * place + 1
  match heap[left]?, heap[left + 1]? with
  | some first, some second => do return if ← less first second then left else left + 1
  | _, _ => .ok left

/-- Let the item in a place sink to the bottom, through at most so many places.
Yields where it has come to as well. -/
def sink (less : Item → Item → Except Error Bool) :
    Nat → Array Item → Nat → Except Error (Array Item × Nat)
  | 0, heap, place => .ok (heap, place)
  | levels + 1, heap, place =>
      if place < heap.size / 2 then do
        let below ← lesserBelow less heap place
        sink less levels (heap.swapIfInBounds place below) below
      else .ok (heap, place)

/-- Let the item in a place rise past every greater item, up to a given place. -/
def rise (less : Item → Item → Except Error Bool) (top : Nat) (heap : Array Item) (place : Nat) :
    Except Error (Array Item) :=
  if top < place then
    let above := (place - 1) / 2
    match heap[place]?, heap[above]? with
    | some item, some greater => do
        if ← less item greater then rise less top (heap.swapIfInBounds place above) above
        else return heap
    | _, _ => .ok heap
  else .ok heap
termination_by place
decreasing_by omega

/-- Put the item in a place where it belongs among those below it. -/
def settle (less : Item → Item → Except Error Bool) (heap : Array Item) (place : Nat) :
    Except Error (Array Item) := do
  -- A place has fewer levels below it than the heap has items.
  let (heap, bottom) ← sink less heap.size heap place
  rise less place heap bottom

/-- The heap of some items. -/
def ofList (less : Item → Item → Except Error Bool) (items : List Item) :
    Except Error (Array Item) :=
  (List.range (items.length / 2)).reverse.foldlM (settle less) items.toArray

/-- Put an item in place of the one at the top. -/
def replaceTop (less : Item → Item → Except Error Bool) (heap : Array Item) (item : Item) :
    Except Error (Array Item) :=
  settle less (heap.setIfInBounds 0 item) 0

end Chip8.Ranking.Heap
