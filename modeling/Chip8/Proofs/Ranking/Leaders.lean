import Mathlib.Data.Prod.Lex
import Chip8.Proofs.Ranking.Heap

/-!
# The first places of a ranking

When there are fewer places than items, a heap keeps the best items so far with the last of them
at its top.  The next item takes the place of that one if its key is greater, and is dropped
otherwise, so that no item that was dropped has a greater key than one that was kept (`Keeps`).

Comparing keys alone would not settle the order of items with equal keys.  So every item has a
number, and of two items with equal keys the later one stands behind (`standing`).  A new item
is later than all others; hence comparing its key with that of the last place is enough, and
what is kept in the end makes up the first places of the ranking (`leaders_eq_take`).
-/

namespace Chip8.Ranking

variable {Item Error Key : Type} [LinearOrder Key] {key : Item → Key} {items ranked : List Item}

/-! ### A single place -/

/-- An item has a greatest key, and the items before it have smaller ones. -/
def Leads (key : Item → Key) (items : List Item) (most : Item) : Prop :=
  ∃ front back, items = front ++ most :: back ∧ (∀ other ∈ front, key other < key most) ∧
    ∀ other ∈ back, key other ≤ key most

namespace Leads

variable {most : Item}

theorem mem (h : Leads key items most) : most ∈ items := by
  obtain ⟨front, back, rfl, -⟩ := h
  simp

theorem le (h : Leads key items most) {other : Item} (hmem : other ∈ items) :
    key other ≤ key most := by
  obtain ⟨front, back, rfl, hfront, hback⟩ := h
  rcases List.mem_append.mp hmem with hmem | hmem
  · exact le_of_lt (hfront other hmem)
  · rcases List.mem_cons.mp hmem with rfl | hmem
    · exact le_refl _
    · exact hback other hmem

/-- A further item leads if its key is greater than all before. -/
theorem concat (h : Leads key items most) (next : Item) :
    Leads key (items ++ [next]) (if key most < key next then next else most) := by
  by_cases hlt : key most < key next
  · rw [if_pos hlt]
    exact ⟨items, [], rfl, fun other hmem => lt_of_le_of_lt (h.le hmem) hlt,
      fun other hmem => absurd hmem List.not_mem_nil⟩
  · rw [if_neg hlt]
    obtain ⟨front, back, rfl, hfront, hback⟩ := h
    refine ⟨front, back ++ [next], by simp, hfront, ?_⟩
    intro other hmem
    rcases List.mem_append.mp hmem with hmem | hmem
    · exact hback other hmem
    · obtain rfl := List.mem_singleton.mp hmem
      exact not_lt.mp hlt

/-- The leading item has the first place. -/
theorem take_one (h : Leads key items most) (hranks : Ranks key items ranked) :
    ranked.take 1 = [most] := by
  have hmost : most ∈ ranked := hranks.perm.mem_iff.mpr h.mem
  rcases ranked with _ | ⟨first, rest⟩
  · exact absurd hmost List.not_mem_nil
  · have hkey : key first = key most :=
      le_antisymm (h.le (hranks.perm.mem_iff.mp List.mem_cons_self)) (hranks.falling.le_head hmost)
    have htied := hranks.tied_eq (key most)
    obtain ⟨front, back, rfl, hfront, -⟩ := h
    have hnone : tied key (key most) front = [] := by
      refine List.filter_eq_nil_iff.mpr fun other hmem => ?_
      simpa using ne_of_lt (hfront other hmem)
    rw [tied_append, hnone, tied_cons, tied_cons, if_pos hkey, if_pos rfl] at htied
    rw [(List.cons.inj htied).1]
    rfl

end Leads

theorem exists_greatest {less : Item → Item → Except Error Bool} {first : Item}
    {rest : List Item} (h : Compares less key (first :: rest)) :
    ∃ most, greatest less (first :: rest) = .ok [most] ∧ Leads key (first :: rest) most := by
  have hfold : ∃ most, rest.foldlM
      (fun most next => do return if ← less most next then next else most) first = .ok most ∧
        Leads key (first :: rest) most := by
    refine exists_foldlM (fun seen most => Leads key (first :: seen) most)
      (fun seen next later most hrest hleads => ⟨_, ?_, hleads.concat next⟩)
      ⟨[], [], rfl, by simp, by simp⟩
    have hmost : most ∈ first :: rest := by
      have hmem := hleads.mem
      rw [hrest]
      simp only [List.mem_cons, List.mem_append] at hmem ⊢
      tauto
    have hless := h most hmost next (by simp [hrest])
    rw [hless]
    simp only [bind, Except.bind, pure, Except.pure, decide_eq_true_eq]
  obtain ⟨most, hmost, hleads⟩ := hfold
  exact ⟨most, congrArg (fun found => found >>= fun most => pure [most]) hmost, hleads⟩

/-! ### Numbered items -/

/-- Where a numbered item stands: by its key, and of items with equal keys by its number. -/
def standing (key : Item → Key) (numbered : Item × Nat) : Key ×ₗ Natᵒᵈ :=
  toLex (key numbered.1, OrderDual.toDual numbered.2)

section Standing

variable {first second : Item × Nat}

theorem standing_lt_iff :
    standing key first < standing key second ↔
      key first.1 < key second.1 ∨ key first.1 = key second.1 ∧ second.2 < first.2 :=
  Prod.Lex.toLex_lt_toLex

theorem standing_le_iff :
    standing key first ≤ standing key second ↔
      key first.1 < key second.1 ∨ key first.1 = key second.1 ∧ second.2 ≤ first.2 :=
  Prod.Lex.toLex_le_toLex

theorem key_le_of_standing_le (h : standing key first ≤ standing key second) :
    key first.1 ≤ key second.1 := by
  rcases standing_le_iff.mp h with hlt | ⟨heq, -⟩
  · exact le_of_lt hlt
  · exact le_of_eq heq

end Standing

theorem pairwise_zipIdx : items.zipIdx.Pairwise fun first second => first.2 ≤ second.2 := by
  have hnumbers : (items.zipIdx.map Prod.snd).Pairwise fun first second => first < second := by
    rw [List.zipIdx_map_snd]
    exact List.pairwise_lt_range' 1
  exact (List.pairwise_map.mp hnumbers).imp le_of_lt

/-- Numbered items by their standing are the ranking of the items. -/
theorem ranks_of_standing {all : List (Item × Nat)} (hperm : all.Perm items.zipIdx)
    (hfalling : Falling (standing key) all) : Ranks key items (all.map Prod.fst) where
  falling := List.pairwise_map.mpr (hfalling.imp key_le_of_standing_le)
  tied_eq value := by
    let hasKey : Item × Nat → Bool := fun numbered => key numbered.1 = value
    have hnumbered : all.filter hasKey = items.zipIdx.filter hasKey := by
      refine (hperm.filter hasKey).eq_of_pairwise ?_ ?_ (pairwise_zipIdx.filter hasKey)
      · -- Only one item has a number.
        intro first second hfirst hsecond hle hge
        have hnumber : first.2 = second.2 := Nat.le_antisymm hle hge
        have hfirstItem := List.mem_zipIdx_iff_getElem?.mp
          (hperm.mem_iff.mp (List.mem_of_mem_filter hfirst))
        have hsecondItem := List.mem_zipIdx_iff_getElem?.mp (List.mem_of_mem_filter hsecond)
        rw [hnumber, hsecondItem] at hfirstItem
        exact Prod.ext (Option.some.inj hfirstItem).symm hnumber
      · refine (hfalling.filter hasKey).imp_of_mem fun {first second} hfirst hsecond hle => ?_
        have hkeys : key second.1 = key first.1 :=
          (of_decide_eq_true (List.mem_filter.mp hsecond).2).trans
            (of_decide_eq_true (List.mem_filter.mp hfirst).2).symm
        rcases standing_le_iff.mp hle with hlt | ⟨-, hle⟩
        · exact absurd hkeys (ne_of_lt hlt)
        · exact hle
    calc tied key value (all.map Prod.fst)
        = (all.filter hasKey).map Prod.fst := List.filter_map
      _ = (items.zipIdx.filter hasKey).map Prod.fst := by rw [hnumbered]
      _ = tied key value (items.zipIdx.map Prod.fst) :=
        (List.filter_map (p := fun item => key item = value)).symm
      _ = tied key value items := by rw [List.zipIdx_map_fst]

/-! ### Several places -/

namespace Comparison

variable {comparison : Comparison Item Error}

/-- Items are compared by their keys, and those with equal keys count as the same. -/
structure Follows (comparison : Comparison Item Error) (key : Item → Key)
    (items : List Item) : Prop where
  less : Compares comparison.less key items
  same : ∀ first ∈ items, ∀ second ∈ items,
    comparison.same first second = decide (key first = key second)

theorem Follows.of_subset {others : List Item} (h : comparison.Follows key items)
    (hsub : others ⊆ items) : comparison.Follows key others where
  less := h.less.of_subset hsub
  same first hfirst second hsecond := h.same first (hsub hfirst) second (hsub hsecond)

/-- Numbered items are compared by their standing. -/
theorem Follows.behind {numbered : List (Item × Nat)}
    (h : comparison.Follows key (numbered.map Prod.fst)) :
    Compares comparison.behind (standing key) numbered := by
  intro first hfirst second hsecond
  have hfirst := List.mem_map_of_mem (f := Prod.fst) hfirst
  have hsecond := List.mem_map_of_mem (f := Prod.fst) hsecond
  unfold Comparison.behind
  rw [h.same _ hfirst _ hsecond, h.less _ hfirst _ hsecond]
  simp only [standing_lt_iff, decide_eq_true_eq]
  by_cases hkey : key first.1 = key second.1
  · simp [hkey]
  · simp [hkey]

/-- A heap keeps some of the items so far, and what was dropped stands behind them. -/
structure Keeps (key : Item → Key) (numbered : List (Item × Nat))
    (kept : Array (Item × Nat)) : Prop where
  ordered : Heap.Ordered (standing key) 0 kept
  split : ∃ dropped, (kept.toList ++ dropped).Perm numbered ∧
    ∀ first ∈ kept.toList, ∀ second ∈ dropped, standing key second ≤ standing key first

namespace Keeps

variable {numbered rest : List (Item × Nat)} {kept : Array (Item × Nat)}

theorem exists_consider (h : Keeps key numbered kept) (hsize : 0 < kept.size)
    {next : Item × Nat} (hfollows : comparison.Follows key ((numbered ++ [next]).map Prod.fst))
    (hlater : ∀ other ∈ numbered, other.2 ≤ next.2) :
    ∃ after, comparison.consider kept next = .ok after ∧ after.size = kept.size ∧
      Keeps key (numbered ++ [next]) after := by
  obtain ⟨dropped, hperm, hbehind⟩ := h.split
  obtain ⟨last, others, hkept⟩ : ∃ last others, kept.toList = last :: others :=
    List.exists_cons_of_length_pos hsize
  have hlast : kept[0]? = some last := by
    rw [← Array.getElem?_toList, hkept]
    rfl
  have hleast : ∀ first ∈ kept.toList, standing key last ≤ standing key first := by
    intro first hfirst
    obtain ⟨i, hi, rfl⟩ := Array.getElem_of_mem (Array.mem_toList_iff.mp hfirst)
    have hle := h.ordered.top_le i hi
    rwa [Array.getElem_eq_iff.mpr hlast] at hle
  have hmem : last ∈ numbered :=
    hperm.subset (List.mem_append_left _ (by rw [hkept]; exact List.mem_cons_self))
  have hless := hfollows.less last.1 (List.mem_map_of_mem (List.mem_append_left _ hmem)) next.1
    (List.mem_map_of_mem (List.mem_append_right _ List.mem_cons_self))
  simp only [consider, hlast, hless, bind, Except.bind, pure, Except.pure]
  by_cases hkey : key last.1 < key next.1
  · -- The last place is taken over, and who had it is dropped.
    have hsub : next :: others ⊆ numbered ++ [next] := by
      intro other hother
      rcases List.mem_cons.mp hother with rfl | hother
      · simp
      · have hin : other ∈ kept.toList := by rw [hkept]; exact List.mem_cons_of_mem _ hother
        exact List.mem_append_left _ (hperm.subset (List.mem_append_left _ hin))
    obtain ⟨after, hafter, hafterPerm, hordered⟩ :=
      h.ordered.exists_replaceTop hkept (hfollows.behind.of_subset hsub)
    refine ⟨after, by simpa [hkey] using hafter, ?_, hordered, last :: dropped, ?_, ?_⟩
    · have hlength := hafterPerm.length_eq
      rw [Array.length_toList] at hlength
      rw [hlength, ← Array.length_toList, hkept]
      rfl
    · have hmiddle :
          (next :: others ++ last :: dropped).Perm (next :: (kept.toList ++ dropped)) := by
        rw [hkept]
        exact List.perm_middle.cons next
      exact (hafterPerm.append_right _).trans (hmiddle.trans
        ((hperm.cons next).trans (List.perm_append_singleton next numbered).symm))
    · have hgrown : standing key last ≤ standing key next :=
        le_of_lt (standing_lt_iff.mpr (Or.inl hkey))
      have hlastMem : last ∈ kept.toList := by rw [hkept]; exact List.mem_cons_self
      intro first hfirst second hsecond
      rcases List.mem_cons.mp (hafterPerm.mem_iff.mp hfirst) with rfl | hfirst
      · rcases List.mem_cons.mp hsecond with rfl | hsecond
        · exact hgrown
        · exact le_trans (hbehind last hlastMem second hsecond) hgrown
      · have hfirst : first ∈ kept.toList := by rw [hkept]; exact List.mem_cons_of_mem _ hfirst
        rcases List.mem_cons.mp hsecond with rfl | hsecond
        · exact hleast first hfirst
        · exact hbehind first hfirst second hsecond
  · have hshrunk : standing key next ≤ standing key last := by
      apply standing_le_iff.mpr
      rcases lt_or_eq_of_le (not_lt.mp hkey) with hlt | heq
      · exact Or.inl hlt
      · exact Or.inr ⟨heq, hlater last hmem⟩
    refine ⟨kept, by simp [hkey], rfl, h.ordered, dropped ++ [next], ?_, ?_⟩
    · rw [← List.append_assoc]
      exact hperm.append_right _
    · intro first hfirst second hsecond
      rcases List.mem_append.mp hsecond with hsecond | hsecond
      · exact hbehind first hfirst second hsecond
      · obtain rfl := List.mem_singleton.mp hsecond
        exact le_trans hshrunk (hleast first hfirst)

theorem exists_foldlM_consider (h : Keeps key numbered kept) (hsize : 0 < kept.size)
    (hfollows : comparison.Follows key ((numbered ++ rest).map Prod.fst))
    (hordered : (numbered ++ rest).Pairwise fun first second => first.2 ≤ second.2) :
    ∃ after, rest.foldlM comparison.consider kept = .ok after ∧ after.size = kept.size ∧
      Keeps key (numbered ++ rest) after := by
  refine exists_foldlM
    (fun seen after => after.size = kept.size ∧ Keeps key (numbered ++ seen) after)
    (fun seen next later after hrest hkeeps => ?_) ⟨rfl, by rwa [List.append_nil]⟩
  obtain ⟨hafterSize, hkeeps⟩ := hkeeps
  have hwhole : numbered ++ rest = (numbered ++ seen ++ [next]) ++ later := by simp [hrest]
  rw [hwhole] at hfollows hordered
  have hlater : ∀ other ∈ numbered ++ seen, other.2 ≤ next.2 := fun other hother =>
    (List.pairwise_append.mp (List.pairwise_append.mp hordered).1).2.2 other hother next
      List.mem_cons_self
  have hseen : (numbered ++ seen ++ [next]).map Prod.fst ⊆
      (numbered ++ seen ++ [next] ++ later).map Prod.fst :=
    List.map_subset _ (List.subset_append_left _ _)
  obtain ⟨considered, hconsider, hconsidered, hall⟩ :=
    hkeeps.exists_consider (by omega) (hfollows.of_subset hseen) hlater
  rw [List.append_assoc] at hall
  exact ⟨considered, hconsider, hconsidered.trans hafterSize, hall⟩

/-- What is kept in the end is ranked before what was dropped. -/
theorem take_eq (h : Keeps key items.zipIdx kept) {ranked : List Item}
    (hranks : Ranks key items ranked) {front : List (Item × Nat)}
    (hfront : Ranks (standing key) kept.toList front) :
    ranked.take kept.size = front.map Prod.fst := by
  obtain ⟨dropped, hperm, hbehind⟩ := h.split
  obtain ⟨back, hback⟩ := exists_ranks (standing key) dropped
  have hall : Falling (standing key) (front ++ back) := by
    refine List.pairwise_append.mpr ⟨hfront.falling, hback.falling, ?_⟩
    intro first hfirst second hsecond
    exact hbehind first (hfront.perm.mem_iff.mp hfirst) second (hback.perm.mem_iff.mp hsecond)
  have hwhole : ranked = (front ++ back).map Prod.fst :=
    hranks.unique (ranks_of_standing ((hfront.perm.append hback.perm).trans hperm) hall)
  have hlength : (front.map Prod.fst).length = kept.size := by
    rw [List.length_map, hfront.perm.length_eq, Array.length_toList]
  rw [hwhole, List.map_append, List.take_left' hlength]

end Keeps

/-- The leaders are the first places of the ranking. -/
theorem leaders_eq_take (h : comparison.Follows key items) (hranks : Ranks key items ranked)
    (places : Nat) : comparison.leaders places items = .ok (ranked.take places) := by
  have hdescending : descending comparison.less items = .ok ranked := by
    obtain ⟨other, hother, hranksOther⟩ := exists_descending h.less
    rw [hother, hranksOther.unique hranks]
  unfold leaders
  split
  case isTrue hzero =>
    rw [hzero, List.take_zero]
  case isFalse hzero =>
    split
    case isTrue hone =>
      subst hone
      rcases items with _ | ⟨first, rest⟩
      · rw [hranks.perm.eq_nil]
        rfl
      · obtain ⟨most, hmost, hleads⟩ := exists_greatest h.less
        rw [hmost, hleads.take_one hranks]
    case isFalse hone =>
      split
      case isTrue hfew =>
        rw [hdescending, List.take_of_length_le (by rwa [hranks.perm.length_eq])]
      case isFalse hmany =>
        have hnumbered : comparison.Follows key (items.zipIdx.map Prod.fst) := by
          rwa [List.zipIdx_map_fst]
        have hsplit : items.zipIdx.take places ++ items.zipIdx.drop places = items.zipIdx :=
          List.take_append_drop _ _
        have hbehind := hnumbered.behind
        obtain ⟨start, hstart, hstartPerm, hordered⟩ :=
          Heap.exists_ofList (hbehind.of_subset (List.take_subset places _))
        have hstartSize : start.size = places := by
          rw [← Array.length_toList, hstartPerm.length_eq, List.length_take, List.length_zipIdx]
          omega
        have hkeeps : Keeps key (items.zipIdx.take places) start :=
          ⟨hordered, [], by rwa [List.append_nil], by simp⟩
        obtain ⟨kept, hkept, hkeptSize, hall⟩ := hkeeps.exists_foldlM_consider (by omega)
          (by rwa [hsplit]) (by rw [hsplit]; exact pairwise_zipIdx)
        rw [hsplit] at hall
        obtain ⟨dropped, hperm, -⟩ := hall.split
        obtain ⟨front, hfront, hfrontRanks⟩ := exists_descending
          (hbehind.of_subset fun numbered hmem => hperm.subset (List.mem_append_left _ hmem))
        have htake := hall.take_eq hranks hfrontRanks
        rw [hkeptSize, hstartSize] at htake
        simp only [hstart, hkept, hfront, bind, Except.bind, pure, Except.pure, htake]

end Comparison

end Chip8.Ranking
