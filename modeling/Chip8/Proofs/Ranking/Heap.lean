import Chip8.Proofs.Ranking.Insertion
import Chip8.Ranking.Heap

/-!
# Heaps of items that are compared by their keys

In a heap no item has a smaller key than the one above it, so that a least item is at the top
(`Ordered.top_le`).  An item that comes to a new place breaks this around itself only.

* While it sinks, all others stay in order, and what is right below it has no smaller keys than
  what is right above it (`Sinks`): the lesser of the two items below takes its place.
* At the bottom nothing is below it (`Sinks.rises`), and from there it rises past greater items
  (`Rises`) until it is in order itself.

An item only moves along one path below the place where it came in (`Under`), so that it does not
rise further than that.
-/

namespace Chip8.Ranking.Heap

variable {Item Error Key : Type} [LinearOrder Key] {key : Item → Key}
  {less : Item → Item → Except Error Bool} {heap : Array Item} {top place : Nat}

/-! ### Order -/

/-- No item has a smaller key than the one above it, as far as that one is at some place or
after it. -/
def Ordered (key : Item → Key) (top : Nat) (heap : Array Item) : Prop :=
  ∀ i (hi : i < heap.size), 0 < i → top ≤ (i - 1) / 2 → key heap[(i - 1) / 2] ≤ key heap[i]

/-- At the top of a heap is a least item. -/
theorem Ordered.top_le (h : Ordered key 0 heap) (i : Nat) (hi : i < heap.size) :
    key heap[0] ≤ key heap[i] := by
  induction i using Nat.strongRecOn with
  | ind i ih =>
      rcases Nat.eq_zero_or_pos i with rfl | hpos
      · exact le_refl _
      · calc key heap[0] ≤ key heap[(i - 1) / 2] := ih _ (by omega) (by omega)
          _ ≤ key heap[i] := h i hi hpos (Nat.zero_le _)

/-- Items in the lower half have nothing below them. -/
theorem ordered_of_half_le (h : heap.size / 2 ≤ top) : Ordered key top heap := by
  intro i hi hpos htop
  omega

/-- What is right below a place has no smaller keys than what is right above it. -/
def Spans (key : Item → Key) (top : Nat) (heap : Array Item) (place : Nat) : Prop :=
  ∀ i (hi : i < heap.size) (_ : (i - 1) / 2 = place), 0 < place → top ≤ (place - 1) / 2 →
    key heap[(place - 1) / 2] ≤ key heap[i]

/-- A heap is in order but for the item in some place. -/
structure Sinks (key : Item → Key) (top : Nat) (heap : Array Item) (place : Nat) : Prop where
  ordered : ∀ i (hi : i < heap.size), 0 < i → top ≤ (i - 1) / 2 → i ≠ place →
    (i - 1) / 2 ≠ place → key heap[(i - 1) / 2] ≤ key heap[i]
  spans : Spans key top heap place

/-- A heap is in order but for the item in some place and the one above it. -/
structure Rises (key : Item → Key) (top : Nat) (heap : Array Item) (place : Nat) : Prop where
  ordered : ∀ i (hi : i < heap.size), 0 < i → top ≤ (i - 1) / 2 → i ≠ place →
    key heap[(i - 1) / 2] ≤ key heap[i]
  spans : Spans key top heap place

/-- At first only the item at the top may be out of order. -/
theorem Ordered.sinks (h : Ordered key (top + 1) heap) : Sinks key top heap top where
  ordered i hi hpos htop _ hne := h i hi hpos (by omega)
  spans i hi habove hpos htop := by omega

/-- At the bottom nothing is below an item. -/
theorem Sinks.rises (h : Sinks key top heap place) (hbottom : heap.size / 2 ≤ place) :
    Rises key top heap place where
  ordered i hi hpos htop hne := h.ordered i hi hpos htop hne (by omega)
  spans := h.spans

/-! ### Moves -/

theorem getElem_swapIfInBounds {first second i : Nat} (hfirst : first < heap.size)
    (hsecond : second < heap.size) (hi : i < heap.size)
    {hswap : i < (heap.swapIfInBounds first second).size} :
    (heap.swapIfInBounds first second)[i] =
      if i = first then heap[second] else if i = second then heap[first] else heap[i] := by
  simp only [Array.swapIfInBounds, hfirst, hsecond, dif_pos]
  exact Array.getElem_swap hfirst hsecond _

theorem swapIfInBounds_perm {first second : Nat} (hfirst : first < heap.size)
    (hsecond : second < heap.size) :
    (heap.swapIfInBounds first second).toList.Perm heap.toList := by
  simp only [Array.swapIfInBounds, hfirst, hsecond, dif_pos]
  exact Array.perm_iff_toList_perm.mp (Array.swap_perm hfirst hsecond)

/-- The lesser of the items below takes the place of an item. -/
theorem Sinks.swap (h : Sinks key top heap place) (htop : top ≤ place) {below : Nat}
    (hbelow : below < heap.size) (hpos : 0 < below) (habove : (below - 1) / 2 = place)
    (hleast : ∀ i (hi : i < heap.size), 0 < i → (i - 1) / 2 = place →
      key heap[below] ≤ key heap[i]) :
    Sinks key top (heap.swapIfInBounds place below) below := by
  have hplace : place < heap.size := by omega
  constructor
  · intro i hi hiPos hiTop hne hneAbove
    rw [Array.size_swapIfInBounds] at hi
    have hup : (i - 1) / 2 < heap.size := by omega
    rw [getElem_swapIfInBounds hplace hbelow hup, getElem_swapIfInBounds hplace hbelow hi,
      if_neg hneAbove, if_neg hne]
    by_cases hiPlace : i = place
    · -- What was right below the place stays below what is right above it.
      subst hiPlace
      rw [if_neg (by omega), if_pos rfl]
      exact h.spans below hbelow habove hiPos hiTop
    · rw [if_neg hiPlace]
      by_cases hiAbove : (i - 1) / 2 = place
      · rw [if_pos hiAbove]
        exact hleast i hi hiPos hiAbove
      · rw [if_neg hiAbove]
        exact h.ordered i hi hiPos hiTop hiPlace hiAbove
  · intro i hi hiAbove _ _
    rw [Array.size_swapIfInBounds] at hi
    have hup : (below - 1) / 2 < heap.size := by omega
    rw [getElem_swapIfInBounds hplace hbelow hup, getElem_swapIfInBounds hplace hbelow hi,
      if_pos habove, if_neg (by omega), if_neg (by omega)]
    have hle := h.ordered i hi (by omega) (by omega) (by omega) (by omega)
    simp only [hiAbove] at hle
    exact hle

/-- An item and the greater one above it change places. -/
theorem Rises.swap (h : Rises key top heap place) (hplace : place < heap.size) (hpos : 0 < place)
    (htop : top ≤ (place - 1) / 2) (hless : key heap[place] < key heap[(place - 1) / 2]) :
    Rises key top (heap.swapIfInBounds place ((place - 1) / 2)) ((place - 1) / 2) := by
  have habove : (place - 1) / 2 < heap.size := by omega
  constructor
  · intro i hi hiPos hiTop hne
    rw [Array.size_swapIfInBounds] at hi
    have hup : (i - 1) / 2 < heap.size := by omega
    rw [getElem_swapIfInBounds hplace habove hup, getElem_swapIfInBounds hplace habove hi,
      if_neg hne]
    by_cases hiPlace : i = place
    · subst hiPlace
      rw [if_neg (by omega), if_pos rfl, if_pos rfl]
      exact le_of_lt hless
    · rw [if_neg hiPlace]
      by_cases hiBelow : (i - 1) / 2 = place
      · rw [if_pos hiBelow]
        exact h.spans i hi hiBelow hpos htop
      · rw [if_neg hiBelow]
        have hle := h.ordered i hi hiPos hiTop hiPlace
        by_cases hiBeside : (i - 1) / 2 = (place - 1) / 2
        · rw [if_pos hiBeside]
          simp only [hiBeside] at hle
          exact le_trans (le_of_lt hless) hle
        · rw [if_neg hiBeside]
          exact hle
  · intro i hi hiAbove hpos' htop'
    rw [Array.size_swapIfInBounds] at hi
    have hup : ((place - 1) / 2 - 1) / 2 < heap.size := by omega
    have hlink := h.ordered ((place - 1) / 2) habove hpos' htop' (by omega)
    rw [getElem_swapIfInBounds hplace habove hup, getElem_swapIfInBounds hplace habove hi,
      if_neg (by omega), if_neg (by omega)]
    by_cases hiPlace : i = place
    · rw [if_pos hiPlace]
      exact hlink
    · rw [if_neg hiPlace, if_neg (by omega)]
      have hle := h.ordered i hi (by omega) (by omega) hiPlace
      simp only [hiAbove] at hle
      exact le_trans hlink hle

theorem Rises.ordered_of_le (h : Rises key top heap place) (hplace : place < heap.size)
    (hle : 0 < place → top ≤ (place - 1) / 2 → key heap[(place - 1) / 2] ≤ key heap[place]) :
    Ordered key top heap := by
  intro i hi hpos htop
  by_cases hiPlace : i = place
  · subst hiPlace
    exact hle hpos htop
  · exact h.ordered i hi hpos htop hiPlace

/-! ### Paths -/

/-- A place lies on a path down from another one. -/
inductive Under (top : Nat) : Nat → Prop
  | top : Under top top
  | down {place below : Nat} (h : Under top place) (hpos : 0 < below)
      (habove : (below - 1) / 2 = place) : Under top below

theorem Under.le (h : Under top place) : top ≤ place := by
  induction h with
  | top => exact le_refl _
  | down _ hpos habove ih => omega

theorem Under.above (h : Under top place) (hlt : top < place) : Under top ((place - 1) / 2) := by
  cases h with
  | top => exact absurd hlt (lt_irrefl _)
  | down h _ habove => rwa [habove]

/-! ### Sinking and rising -/

theorem less_of_compares (h : Compares less key heap.toList) {first second : Nat}
    (hfirst : first < heap.size) (hsecond : second < heap.size) :
    less heap[first] heap[second] = .ok (decide (key heap[first] < key heap[second])) :=
  h _ (Array.getElem_mem_toList hfirst) _ (Array.getElem_mem_toList hsecond)

theorem exists_lesserBelow (h : Compares less key heap.toList) (hplace : place < heap.size / 2) :
    ∃ below, ∃ hbelow : below < heap.size, lesserBelow less heap place = .ok below ∧
      0 < below ∧ (below - 1) / 2 = place ∧
      ∀ i (hi : i < heap.size), 0 < i → (i - 1) / 2 = place → key heap[below] ≤ key heap[i] := by
  have hleft : 2 * place + 1 < heap.size := by omega
  by_cases hright : 2 * place + 1 + 1 < heap.size
  · have hless := less_of_compares h hleft hright
    have hpair : ∀ i, 0 < i → (i - 1) / 2 = place → i = 2 * place + 1 ∨ i = 2 * place + 1 + 1 := by
      omega
    simp only [lesserBelow, Array.getElem?_eq_getElem hleft, Array.getElem?_eq_getElem hright,
      hless, bind, Except.bind, pure, Except.pure]
    by_cases hkey : key heap[2 * place + 1] < key heap[2 * place + 1 + 1]
    · refine ⟨2 * place + 1, hleft, by rw [decide_eq_true hkey, if_pos rfl], by omega, by omega, ?_⟩
      intro i hi hpos habove
      rcases hpair i hpos habove with rfl | rfl
      · exact le_refl _
      · exact le_of_lt hkey
    · refine ⟨2 * place + 1 + 1, hright, ?_, by omega, by omega, ?_⟩
      · rw [decide_eq_false hkey, if_neg Bool.false_ne_true]
      · intro i hi hpos habove
        rcases hpair i hpos habove with rfl | rfl
        · exact not_lt.mp hkey
        · exact le_refl _
  · -- There is only one item below.
    refine ⟨2 * place + 1, hleft, ?_, by omega, by omega, ?_⟩
    · simp only [lesserBelow, Array.getElem?_eq_getElem hleft,
        Array.getElem?_eq_none (Nat.le_of_not_lt hright)]
    · intro i hi hpos habove
      have honly : i = 2 * place + 1 := by omega
      subst honly
      exact le_refl _

theorem exists_sink {levels : Nat} (h : Sinks key top heap place)
    (hcompares : Compares less key heap.toList) (hunder : Under top place)
    (hplace : place < heap.size) (hlevels : heap.size ≤ place + levels) :
    ∃ next bottom, sink less levels heap place = .ok (next, bottom) ∧
      next.toList.Perm heap.toList ∧ Rises key top next bottom ∧ Under top bottom ∧
      bottom < next.size := by
  induction levels generalizing heap place with
  | zero => omega
  | succ levels ih =>
      unfold sink
      split
      case isTrue hhalf =>
        obtain ⟨below, hbelow, hlesser, hpos, habove, hleast⟩ := exists_lesserBelow hcompares hhalf
        have hperm := swapIfInBounds_perm hplace hbelow
        obtain ⟨next, bottom, hsink, hnext, hrises⟩ :=
          ih (h.swap hunder.le hbelow hpos habove hleast) (hcompares.of_subset hperm.subset)
            (hunder.down hpos habove) (by simpa using hbelow)
            (by rw [Array.size_swapIfInBounds]; omega)
        refine ⟨next, bottom, ?_, hnext.trans hperm, hrises⟩
        rw [hlesser]
        exact hsink
      case isFalse hhalf =>
        exact ⟨heap, place, rfl, .refl _, h.rises (Nat.le_of_not_lt hhalf), hunder, hplace⟩

theorem exists_rise (h : Rises key top heap place) (hcompares : Compares less key heap.toList)
    (hunder : Under top place) (hplace : place < heap.size) :
    ∃ next, rise less top heap place = .ok next ∧ next.toList.Perm heap.toList ∧
      Ordered key top next := by
  induction place using Nat.strongRecOn generalizing heap with
  | ind place ih =>
      unfold rise
      split
      case isTrue hlt =>
        have habove : (place - 1) / 2 < heap.size := by omega
        have hless := less_of_compares hcompares hplace habove
        simp only [Array.getElem?_eq_getElem hplace, Array.getElem?_eq_getElem habove, hless, bind,
          Except.bind]
        by_cases hkey : key heap[place] < key heap[(place - 1) / 2]
        · have hperm := swapIfInBounds_perm hplace habove
          obtain ⟨next, hrise, hnext, hordered⟩ :=
            ih ((place - 1) / 2) (by omega)
              (h.swap hplace (by omega) (hunder.above hlt).le hkey)
              (hcompares.of_subset hperm.subset) (hunder.above hlt) (by simpa using habove)
          refine ⟨next, ?_, hnext.trans hperm, hordered⟩
          rw [decide_eq_true hkey, if_pos rfl]
          exact hrise
        · refine ⟨heap, ?_, .refl _, h.ordered_of_le hplace fun _ _ => not_lt.mp hkey⟩
          rw [decide_eq_false hkey, if_neg Bool.false_ne_true]
          rfl
      case isFalse hlt =>
        -- The item has come back to where it came in.
        exact ⟨heap, rfl, .refl _, h.ordered_of_le hplace fun hpos htop => by omega⟩

/-! ### Heaps -/

/-- An item is put in order among those below it. -/
theorem Ordered.exists_settle (h : Ordered key (top + 1) heap)
    (hcompares : Compares less key heap.toList) (htop : top < heap.size) :
    ∃ next, settle less heap top = .ok next ∧ next.toList.Perm heap.toList ∧
      Ordered key top next := by
  obtain ⟨sunk, bottom, hsink, hsunk, hrises, hunder, hbottom⟩ :=
    exists_sink h.sinks hcompares .top htop (Nat.le_add_left _ _)
  obtain ⟨next, hrise, hnext, hordered⟩ :=
    exists_rise hrises (hcompares.of_subset hsunk.subset) hunder hbottom
  refine ⟨next, ?_, hnext.trans hsunk, hordered⟩
  unfold settle
  rw [hsink]
  exact hrise

/-- Settling one place after another, from the last one up, puts a whole heap in order. -/
theorem Ordered.exists_foldlM_settle (h : Ordered key top heap)
    (hcompares : Compares less key heap.toList) (htop : top ≤ heap.size) :
    ∃ next, (List.range top).reverse.foldlM (settle less) heap = .ok next ∧
      next.toList.Perm heap.toList ∧ Ordered key 0 next := by
  induction top generalizing heap with
  | zero => exact ⟨heap, rfl, .refl _, h⟩
  | succ top ih =>
      obtain ⟨settled, hsettle, hsettled, hordered⟩ := h.exists_settle hcompares htop
      have hsize : settled.size = heap.size := hsettled.length_eq
      obtain ⟨next, hfold, hnext, hall⟩ :=
        ih hordered (hcompares.of_subset hsettled.subset) (by omega)
      refine ⟨next, ?_, hnext.trans hsettled, hall⟩
      rw [List.range_succ, List.reverse_append, List.reverse_singleton, List.singleton_append,
        List.foldlM_cons, hsettle]
      exact hfold

theorem exists_ofList {items : List Item} (hcompares : Compares less key items) :
    ∃ heap, ofList less items = .ok heap ∧ heap.toList.Perm items ∧ Ordered key 0 heap := by
  have hordered : Ordered key (items.length / 2) items.toArray :=
    ordered_of_half_le (by simp)
  exact hordered.exists_foldlM_settle (by simpa using hcompares)
    (by simpa using Nat.div_le_self _ _)

/-- An item takes the place of the one at the top. -/
theorem Ordered.exists_replaceTop {first item : Item} {rest : List Item}
    (h : Ordered key 0 heap) (hheap : heap.toList = first :: rest)
    (hcompares : Compares less key (item :: rest)) :
    ∃ next, replaceTop less heap item = .ok next ∧ next.toList.Perm (item :: rest) ∧
      Ordered key 0 next := by
  have hlist : (heap.setIfInBounds 0 item).toList = item :: rest := by
    rw [Array.toList_setIfInBounds, hheap, List.set_cons_zero]
  have hsize : 0 < heap.size := by
    rw [← Array.length_toList, hheap]
    exact Nat.zero_lt_succ _
  have hordered : Ordered key 1 (heap.setIfInBounds 0 item) := by
    intro i hi hpos htop
    rw [Array.size_setIfInBounds] at hi
    rw [Array.getElem_setIfInBounds, Array.getElem_setIfInBounds, if_neg (by omega),
      if_neg (by omega)]
    exact h i hi hpos (Nat.zero_le _)
  obtain ⟨next, hnext, hperm, hall⟩ :=
    hordered.exists_settle (by rwa [hlist]) (by rwa [Array.size_setIfInBounds])
  exact ⟨next, hnext, by rwa [hlist] at hperm, hall⟩

end Chip8.Ranking.Heap
