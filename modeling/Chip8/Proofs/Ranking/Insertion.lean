import Chip8.Proofs.Ranking.Order
import Chip8.Ranking

/-!
# Rankings found by comparing

Comparing two items may fail, and ranking them fails with it.  Where all items are compared by
their keys (`Compares`), nothing fails and `descending` finds the ranking.

* The items at the start form a run in which keys only rise or only fall, and turning a falling
  run round swaps no items with equal keys, for it has none (`exists_firstRun`).
* Halving finds the place behind all items whose keys are not greater (`exists_place`), so that
  an insertion keeps the order (`Ranks.exists_foldlM_insert`).
* The ranking is what comes out for the reversed items, read backwards (`Ranks.reverse`).
-/

namespace Chip8.Ranking

variable {Item Error Key : Type} [LinearOrder Key] {key : Item → Key}
  {less : Item → Item → Except Error Bool} {item : Item} {items others sorted : List Item}

/-- Items are compared by their keys. -/
def Compares (less : Item → Item → Except Error Bool) (key : Item → Key)
    (items : List Item) : Prop :=
  ∀ first ∈ items, ∀ second ∈ items, less first second = .ok (decide (key first < key second))

theorem Compares.of_subset (h : Compares less key items) (hsub : others ⊆ items) :
    Compares less key others :=
  fun first hfirst second hsecond => h first (hsub hfirst) second (hsub hsecond)

/-- What holds of the items seen so far and of the result, and is kept by each step, holds in
the end; and no step fails. -/
theorem exists_foldlM {Result : Type} {step : Result → Item → Except Error Result}
    {start : Result} (holds : List Item → Result → Prop)
    (hstep : ∀ seen item rest result, items = seen ++ item :: rest → holds seen result →
      ∃ next, step result item = .ok next ∧ holds (seen ++ [item]) next)
    (hstart : holds [] start) :
    ∃ last, items.foldlM step start = .ok last ∧ holds items last := by
  have hrest : ∀ rest seen result, items = seen ++ rest → holds seen result →
      ∃ last, rest.foldlM step result = .ok last ∧ holds items last := by
    intro rest
    induction rest with
    | nil =>
        intro seen result hitems hholds
        rw [List.append_nil] at hitems
        exact ⟨result, rfl, by rwa [hitems]⟩
    | cons item rest ih =>
        intro seen result hitems hholds
        obtain ⟨next, hnext, hkept⟩ := hstep seen item rest result hitems hholds
        obtain ⟨last, hlast, hall⟩ := ih (seen ++ [item]) next (by simp [hitems]) hkept
        refine ⟨last, ?_, hall⟩
        rw [List.foldlM_cons, hnext]
        exact hlast
  exact hrest items [] start rfl hstart

/-! ### Ascending items -/

/-- A key by which items are ranked from least to greatest. -/
abbrev upward (key : Item → Key) : Item → Keyᵒᵈ := fun item => OrderDual.toDual (key item)

/-- Read backwards, ascending items are ranked. -/
theorem Ranks.reverse (h : Ranks (upward key) items.reverse sorted) :
    Ranks key items sorted.reverse where
  falling := List.pairwise_reverse.mpr h.falling
  tied_eq value := by
    have htied := congrArg List.reverse (h.tied_eq (OrderDual.toDual value))
    unfold tied at htied ⊢
    rw [← List.filter_reverse, ← List.filter_reverse, List.reverse_reverse] at htied
    exact htied

/-! ### Insertion -/

/-- Halving finds the place between the items whose keys are not greater and the others. -/
theorem exists_place (h : Compares less key (item :: items)) (hrising : Falling (upward key) items)
    {low high : Nat} (hle : low ≤ high) (hlength : high ≤ items.length)
    (hbelow : ∀ i (hi : i < items.length), i < low → key items[i] ≤ key item)
    (habove : ∀ i (hi : i < items.length), high ≤ i → key item < key items[i]) :
    ∃ found, place less items item low high = .ok found ∧
      (∀ i (hi : i < items.length), i < found → key items[i] ≤ key item) ∧
      ∀ i (hi : i < items.length), found ≤ i → key item < key items[i] := by
  have hordered : ∀ i j (hi : i < items.length) (hj : j < items.length), i ≤ j →
      key items[i] ≤ key items[j] := by
    intro i j hi hj hij
    rcases Nat.lt_or_eq_of_le hij with hlt | rfl
    · exact List.pairwise_iff_getElem.mp hrising i j hi hj hlt
    · exact le_refl _
  fun_induction place less items item low high with
  | case1 low high hlt middle other hother ihBelow ihAbove =>
      have hmiddle : middle = low + (high - low) / 2 := rfl
      have hlt' : middle < items.length := by omega
      have hget : items[middle] = other := by
        rw [List.getElem?_eq_getElem hlt'] at hother
        exact Option.some.inj hother
      have hless : less item other = .ok (decide (key item < key items[middle])) := by
        rw [hget]
        exact h item List.mem_cons_self other
          (List.mem_cons_of_mem _ (List.mem_of_getElem? hother))
      rw [hless]
      by_cases hkey : key item < key items[middle]
      · -- Whatever lies above the middle is greater as well.
        have habove' : ∀ i (hi : i < items.length), middle ≤ i → key item < key items[i] :=
          fun i hi hge => lt_of_lt_of_le hkey (hordered middle i hlt' hi hge)
        obtain ⟨found, hfound, hspec⟩ := ihBelow (by omega) (by omega) hbelow habove'
        exact ⟨found, by simpa [hkey, bind, Except.bind] using hfound, hspec⟩
      · have hbelow' : ∀ i (hi : i < items.length), i < middle + 1 → key items[i] ≤ key item :=
          fun i hi hle => le_trans (hordered i middle hi hlt' (by omega)) (not_lt.mp hkey)
        obtain ⟨found, hfound, hspec⟩ := ihAbove (by omega) (by omega) hbelow' habove
        exact ⟨found, by simpa [hkey, bind, Except.bind] using hfound, hspec⟩
  | case2 low high hlt middle hnone =>
      have hmiddle : middle = low + (high - low) / 2 := rfl
      rw [List.getElem?_eq_none_iff] at hnone
      omega
  | case3 low high hlt =>
      have heq : low = high := by omega
      subst heq
      exact ⟨low, rfl, hbelow, habove⟩

/-- A new item comes behind all whose keys are not greater. -/
theorem exists_insert (hrising : Falling (upward key) items)
    (h : Compares less key (item :: items)) :
    ∃ front back, items = front ++ back ∧ insert less items item = .ok (front ++ item :: back) ∧
      (∀ other ∈ front, key other ≤ key item) ∧ ∀ other ∈ back, key item < key other := by
  obtain ⟨found, hfound, hbelow, habove⟩ := exists_place h hrising (Nat.zero_le _) (le_refl _)
    (fun i hi hlt => absurd hlt (Nat.not_lt_zero i)) (fun i hi hge => absurd hi (by omega))
  refine ⟨items.take found, items.drop found, (List.take_append_drop found items).symm, ?_, ?_, ?_⟩
  · unfold insert
    rw [hfound]
    rfl
  · intro other hmem
    obtain ⟨i, hi, rfl⟩ := List.mem_take_iff_getElem.mp hmem
    exact hbelow i (by omega) (by omega)
  · intro other hmem
    obtain ⟨i, hi, rfl⟩ := List.mem_drop_iff_getElem.mp hmem
    exact habove (found + i) (by omega) (by omega)

/-- Insertions keep the order. -/
theorem Ranks.exists_foldlM_insert (h : Ranks (upward key) items sorted)
    (hcompares : Compares less key (items ++ others)) :
    ∃ longer, others.foldlM (insert less) sorted = .ok longer ∧
      Ranks (upward key) (items ++ others) longer := by
  refine exists_foldlM (fun seen longer => Ranks (upward key) (items ++ seen) longer)
    (fun seen item rest longer hothers hranks => ?_) (by rwa [List.append_nil])
  have hsub : item :: longer ⊆ items ++ others := by
    intro other hother
    rw [List.mem_cons, hranks.perm.mem_iff] at hother
    simp only [hothers, List.mem_cons, List.mem_append] at hother ⊢
    tauto
  obtain ⟨front, back, rfl, hinsert, hfront, hback⟩ :=
    exists_insert hranks.falling (hcompares.of_subset hsub)
  refine ⟨front ++ item :: back, hinsert, ?_⟩
  rw [← List.append_assoc]
  exact hranks.insert_between hfront hback

/-! ### Runs -/

theorem exists_followers (falling : Bool) (h : Compares less key (item :: items)) :
    ∃ more, followers less falling item items = .ok more ∧
      (item :: items.take more).IsChain fun first second =>
        decide (key second < key first) = falling := by
  induction items generalizing item with
  | nil => exact ⟨0, rfl, .singleton item⟩
  | cons next items ih =>
      have hless := h next (by simp) item List.mem_cons_self
      unfold followers
      rw [hless]
      by_cases hfalling : decide (key next < key item) = falling
      · obtain ⟨more, hmore, hchain⟩ := ih (h.of_subset (List.subset_cons_self _ _))
        refine ⟨more + 1, ?_, ?_⟩
        · simp [hfalling, hmore, bind, Except.bind, pure, Except.pure]
        · rw [List.take_succ_cons]
          exact .cons_cons hfalling hchain
      · refine ⟨0, ?_, .singleton item⟩
        simp [hfalling, bind, Except.bind, pure, Except.pure]

/-- A run that falls has no items with equal keys. -/
theorem tied_reverse_of_falling (h : items.Pairwise fun first second => key second < key first)
    (value : Key) : tied key value items.reverse = tied key value items := by
  have hreverse : tied key value items.reverse = (tied key value items).reverse :=
    List.filter_reverse
  have hfalling : (tied key value items).Pairwise fun first second => key second < key first :=
    h.filter _
  have hequal : ∀ item ∈ tied key value items, key item = value := fun item hitem =>
    (mem_tied.mp hitem).2
  rw [hreverse]
  generalize tied key value items = equals at hfalling hequal
  rcases equals with _ | ⟨first, _ | ⟨second, rest⟩⟩
  · rfl
  · rfl
  · have hlt := (List.pairwise_cons.mp hfalling).1 second (by simp)
    rw [hequal first (by simp), hequal second (by simp)] at hlt
    exact absurd hlt (lt_irrefl _)

theorem exists_firstRun (h : Compares less key items) :
    ∃ front rest run, items = front ++ rest ∧ firstRun less items = .ok (run, rest) ∧
      Ranks (upward key) front run := by
  rcases items with _ | ⟨first, _ | ⟨second, rest⟩⟩
  · exact ⟨[], [], [], rfl, rfl, .nil, fun value => rfl⟩
  · exact ⟨[first], [], [first], rfl, rfl, List.pairwise_singleton _ _, fun value => rfl⟩
  · have hless := h second (by simp) first List.mem_cons_self
    obtain ⟨more, hmore, hchain⟩ := exists_followers (decide (key second < key first))
      (h.of_subset (List.subset_cons_self first _))
    have hchain : (first :: second :: rest.take more).IsChain fun before after =>
        decide (key after < key before) = decide (key second < key first) :=
      .cons_cons rfl hchain
    have hitems : first :: second :: rest =
        (first :: second :: rest.take more) ++ rest.drop more := by
      rw [List.cons_append, List.cons_append, List.take_append_drop]
    generalize hfalling : decide (key second < key first) = falling at hless hmore hchain
    refine ⟨first :: second :: rest.take more, rest.drop more,
      if falling then (first :: second :: rest.take more).reverse
        else first :: second :: rest.take more, hitems, ?_, ?_⟩
    · simp only [firstRun, hless, hmore, bind, Except.bind, pure, Except.pure]
    · cases falling with
      | true =>
          have hpairwise : (first :: second :: rest.take more).Pairwise
              fun first second => key second < key first := by
            have : IsTrans Item fun first second => key second < key first :=
              ⟨fun a b c hab hbc => lt_trans hbc hab⟩
            exact List.isChain_iff_pairwise.mp (hchain.imp fun a b hab => of_decide_eq_true hab)
          exact ⟨List.pairwise_reverse.mpr (hpairwise.imp le_of_lt),
            fun value => tied_reverse_of_falling hpairwise (OrderDual.ofDual value)⟩
      | false =>
          have : IsTrans Item fun first second => key first ≤ key second :=
            ⟨fun a b c hab hbc => le_trans hab hbc⟩
          have hpairwise := List.isChain_iff_pairwise.mp
            (hchain.imp fun a b hab => not_lt.mp (of_decide_eq_false hab))
          exact ⟨hpairwise, fun value => rfl⟩

/-! ### Rankings -/

theorem exists_ascending (h : Compares less key items) :
    ∃ sorted, ascending less items = .ok sorted ∧ Ranks (upward key) items sorted := by
  obtain ⟨front, rest, run, rfl, hrun, hascends⟩ := exists_firstRun h
  obtain ⟨sorted, hsorted, hall⟩ := hascends.exists_foldlM_insert h
  refine ⟨sorted, ?_, hall⟩
  unfold ascending
  rw [hrun]
  exact hsorted

/-- Items that are compared by their keys are ranked by them. -/
theorem exists_descending (h : Compares less key items) :
    ∃ ranked, descending less items = .ok ranked ∧ Ranks key items ranked := by
  have hreverse : Compares less key items.reverse :=
    h.of_subset (List.reverse_perm items).subset
  obtain ⟨sorted, hsorted, hascends⟩ := exists_ascending hreverse
  refine ⟨sorted.reverse, ?_, hascends.reverse⟩
  unfold descending
  rw [hsorted]
  rfl

/-- Whatever the keys are, items have a ranking by them. -/
theorem exists_ranks (key : Item → Key) (items : List Item) : ∃ ranked, Ranks key items ranked := by
  let less : Item → Item → Except Empty Bool := fun first second =>
    .ok (decide (key first < key second))
  have hcompares : Compares less key items := fun _ _ _ _ => rfl
  obtain ⟨ranked, -, hranks⟩ := exists_descending hcompares
  exact ⟨ranked, hranks⟩

end Chip8.Ranking
