import Mathlib.Data.List.Sort

/-!
# Rankings by a key

Items are ranked by a key, from greatest to least, and items with equal keys stay in the order
in which they are listed.  Both together leave only one ranking of given items
(`Ranks.unique`), so that two ways to find it need not be compared with each other.
-/

namespace Chip8.Ranking

variable {Item Key : Type} [LinearOrder Key] {key : Item → Key} {value : Key}
  {item other : Item} {items others ranked front back : List Item}

/-! ### Items with equal keys -/

/-- The items with some key. -/
def tied (key : Item → Key) (value : Key) (items : List Item) : List Item :=
  items.filter fun item => key item = value

theorem tied_cons :
    tied key value (item :: items) =
      if key item = value then item :: tied key value items else tied key value items := by
  unfold tied
  rw [List.filter_cons]
  simp only [decide_eq_true_eq]

theorem tied_append :
    tied key value (items ++ others) = tied key value items ++ tied key value others :=
  List.filter_append items others

theorem mem_tied : item ∈ tied key value items ↔ item ∈ items ∧ key item = value := by
  unfold tied
  rw [List.mem_filter, decide_eq_true_eq]

/-- Items that have the same of every key are the same. -/
theorem mem_iff_of_tied (h : ∀ value, tied key value items = tied key value others)
    (item : Item) : item ∈ items ↔ item ∈ others := by
  have hiff : item ∈ tied key (key item) items ↔ item ∈ tied key (key item) others := by rw [h]
  simpa [mem_tied] using hiff

theorem perm_of_tied (h : ∀ value, tied key value items = tied key value others) :
    items.Perm others := by
  classical
  refine List.perm_iff_count.mpr fun item => ?_
  have hcount : ∀ list : List Item, (tied key (key item) list).count item = list.count item := by
    intro list
    unfold tied
    exact List.count_filter (by simp)
  rw [← hcount items, h, hcount others]

/-! ### Falling keys -/

/-- The keys of some items fall. -/
def Falling (key : Item → Key) (items : List Item) : Prop :=
  items.Pairwise fun first second => key second ≤ key first

theorem Falling.le_head (h : Falling key (item :: items)) (hmem : other ∈ item :: items) :
    key other ≤ key item := by
  rcases List.mem_cons.mp hmem with rfl | hmem
  · exact le_refl _
  · exact (List.pairwise_cons.mp h).1 other hmem

/-- The first of two lists with falling keys cannot differ if they have the same items of
every key, and neither can the others. -/
theorem Falling.eq_of_tied (h : Falling key items) (hothers : Falling key others)
    (htied : ∀ value, tied key value items = tied key value others) : items = others := by
  have hmem := mem_iff_of_tied htied
  induction items generalizing others with
  | nil => exact (List.eq_nil_iff_forall_not_mem.mpr fun item => by simp [← hmem item]).symm
  | cons item items ih =>
      cases others with
      | nil => exact absurd ((hmem item).mp List.mem_cons_self) List.not_mem_nil
      | cons other rest =>
          -- Each of the two first items is in the other list, so that their keys are equal.
          have hkey : key item = key other :=
            le_antisymm (hothers.le_head ((hmem item).mp List.mem_cons_self))
              (h.le_head ((hmem other).mpr List.mem_cons_self))
          have hhead := htied (key item)
          rw [tied_cons, tied_cons, if_pos rfl, if_pos hkey.symm, List.cons.injEq] at hhead
          obtain ⟨rfl, -⟩ := hhead
          have hrest : ∀ value, tied key value items = tied key value rest := by
            intro value
            have hcons := htied value
            rw [tied_cons, tied_cons] at hcons
            split at hcons
            case isTrue => exact (List.cons.inj hcons).2
            case isFalse => exact hcons
          rw [ih (List.pairwise_cons.mp h).2 (List.pairwise_cons.mp hothers).2 hrest
            (mem_iff_of_tied hrest)]

/-! ### Rankings -/

/-- A list is the ranking of some items. -/
structure Ranks (key : Item → Key) (items ranked : List Item) : Prop where
  falling : Falling key ranked
  tied_eq : ∀ value, tied key value ranked = tied key value items

namespace Ranks

theorem perm (h : Ranks key items ranked) : ranked.Perm items := perm_of_tied h.tied_eq

theorem unique (h : Ranks key items ranked) (hothers : Ranks key items others) :
    ranked = others :=
  h.falling.eq_of_tied hothers.falling fun value =>
    (h.tied_eq value).trans (hothers.tied_eq value).symm

/-- A ranking by keys that are found in a part of each item ranks these parts. -/
theorem map {Part : Type} {part : Item → Part} {partKey : Part → Key}
    (h : Ranks (fun item => partKey (part item)) items ranked) :
    Ranks partKey (items.map part) (ranked.map part) where
  falling := List.pairwise_map.mpr h.falling
  tied_eq value := by
    have htied := congrArg (List.map part) (h.tied_eq value)
    unfold tied at htied ⊢
    rw [List.filter_map, List.filter_map]
    exact htied

/-- A new item comes behind all whose keys are not smaller. -/
theorem insert_between (h : Ranks key items (front ++ back))
    (hfront : ∀ other ∈ front, key item ≤ key other)
    (hback : ∀ other ∈ back, key other < key item) :
    Ranks key (items ++ [item]) (front ++ item :: back) where
  falling := by
    obtain ⟨hfrontFalling, hbackFalling, hbetween⟩ := List.pairwise_append.mp h.falling
    apply List.pairwise_append.mpr
    refine ⟨hfrontFalling, List.pairwise_cons.mpr ⟨?_, hbackFalling⟩, ?_⟩
    · exact fun other hother => le_of_lt (hback other hother)
    · intro first hfirst second hsecond
      rcases List.mem_cons.mp hsecond with rfl | hsecond
      · exact hfront first hfirst
      · exact hbetween first hfirst second hsecond
  tied_eq value := by
    have hlisted : tied key value (items ++ [item]) =
        tied key value (front ++ back) ++ tied key value [item] := by
      rw [h.tied_eq, tied_append]
    rw [hlisted, tied_append, tied_append, tied_cons, tied_cons]
    by_cases hvalue : key item = value
    · -- What stands behind the new item has smaller keys.
      have hnone : tied key value back = [] := by
        refine List.filter_eq_nil_iff.mpr fun other hother => ?_
        have hlt := hback other hother
        rw [hvalue] at hlt
        simpa using ne_of_lt hlt
      rw [if_pos hvalue, if_pos hvalue, hnone, List.append_nil]
      rfl
    · rw [if_neg hvalue, if_neg hvalue]
      exact (List.append_nil _).symm

end Ranks

end Chip8.Ranking
