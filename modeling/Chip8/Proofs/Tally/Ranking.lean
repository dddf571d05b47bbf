import Mathlib.Data.List.Induction
import Chip8.Proofs.Ranking.Order
import Chip8.Proofs.Tally.Counts

/-!
# Rankings of a tally

A tally is ranked by its counts (`ranks_ranking`), and there is only one such ranking, so that it
can be found in another way: the last entry of a tally is put into the ranking of the others
(`ranking_concat`), and to keep the first places of it no more than the first places are needed
(`leaders_eq_take`).

A tally lists its operations in the order in which they were first counted (`fst_merge`).
-/

namespace Chip8.Tally

open Ranking (Falling Ranks tied mem_tied)

/-! ### Sorting -/

theorem before_trans (first second third : Op × Int) (h : before first second = true)
    (hnext : before second third = true) : before first third = true := by
  simp only [before, decide_eq_true_eq] at h hnext ⊢
  exact Int.le_trans hnext h

theorem before_total (first second : Op × Int) :
    (before first second || before second first) = true := by
  simp only [before, Bool.or_eq_true, decide_eq_true_eq]
  exact Int.le_total second.2 first.2

/-- Entries with equal counts are ranked as they are listed. -/
theorem tied_ranking (count : Int) (tally : Tally) :
    tied Prod.snd count tally.ranking = tied Prod.snd count tally := by
  have hsorted : (tied Prod.snd count tally).Pairwise fun first second => before first second := by
    refine List.pairwise_of_forall_mem_list fun first hfirst second hsecond => ?_
    have hcount : second.2 = first.2 := (mem_tied.mp hsecond).2.trans (mem_tied.mp hfirst).2.symm
    simp [before, hcount]
  have hranked : (tied Prod.snd count tally).Sublist tally.ranking :=
    List.sublist_mergeSort before_trans before_total hsorted List.filter_sublist
  have hsub : (tied Prod.snd count tally).Sublist (tied Prod.snd count tally.ranking) := by
    have hfiltered := hranked.filter fun entry => entry.2 = count
    rw [tied, List.filter_filter] at hfiltered
    simpa [tied] using hfiltered
  have hlength : (tied Prod.snd count tally).length = (tied Prod.snd count tally.ranking).length :=
    ((List.mergeSort_perm tally before).filter _).length_eq.symm
  exact (hsub.eq_of_length hlength).symm

theorem ranks_ranking (tally : Tally) : Ranks Prod.snd tally tally.ranking where
  falling := (List.pairwise_mergeSort before_trans before_total tally).imp of_decide_eq_true
  tied_eq count := tied_ranking count tally

/-- Whatever holds between operations as they are listed decides between entries with equal
counts. -/
theorem pairwise_ranking {tally : Tally} {earlier : Op → Op → Prop}
    (h : (tally.map Prod.fst).Pairwise earlier) :
    tally.ranking.Pairwise fun first second =>
      second.2 < first.2 ∨ first.2 = second.2 ∧ earlier first.1 second.1 := by
  refine List.pairwise_iff_forall_sublist.mpr fun {first second} hsub => ?_
  have hle : second.2 ≤ first.2 :=
    List.pairwise_iff_forall_sublist.mp (ranks_ranking tally).falling hsub
  rcases Int.lt_or_eq_of_le hle with hlt | heq
  · exact Or.inl hlt
  · have htied : [first, second].Sublist (tied Prod.snd first.2 tally.ranking) := by
      have hfiltered := hsub.filter fun entry => entry.2 = first.2
      rw [List.filter_eq_self.mpr (by simp [heq])] at hfiltered
      exact hfiltered
    rw [tied_ranking] at htied
    have hlisted : [first, second].Sublist tally := htied.trans List.filter_sublist
    have hpair := List.pairwise_iff_forall_sublist.mp (List.pairwise_map.mp h) hlisted
    exact Or.inr ⟨heq.symm, hpair⟩

/-! ### Insertion -/

/-- A new entry comes behind all whose counts are not smaller. -/
theorem exists_insert {ranked : List (Op × Int)} (h : Falling Prod.snd ranked)
    (entry : Op × Int) :
    ∃ front back, ranked = front ++ back ∧ insert entry ranked = front ++ entry :: back ∧
      (∀ other ∈ front, entry.2 ≤ other.2) ∧ ∀ other ∈ back, other.2 < entry.2 := by
  induction ranked with
  | nil => exact ⟨[], [], rfl, rfl, by simp, by simp⟩
  | cons head rest ih =>
      unfold insert
      split
      case isTrue hbefore =>
        obtain ⟨front, back, hrest, hinsert, hfront, hback⟩ := ih (List.pairwise_cons.mp h).2
        refine ⟨head :: front, back, by rw [hrest]; rfl, by rw [hinsert]; rfl, ?_, hback⟩
        exact List.forall_mem_cons.mpr ⟨of_decide_eq_true hbefore, hfront⟩
      case isFalse hbefore =>
        have hhead : head.2 < entry.2 := Int.not_le.mp (mt decide_eq_true hbefore)
        exact ⟨[], head :: rest, rfl, rfl, by simp,
          fun other hmem => Int.lt_of_le_of_lt (h.le_head hmem) hhead⟩

/-- The last entry of a tally is put into the ranking of the others. -/
theorem ranking_concat (tally : Tally) (entry : Op × Int) :
    ranking (tally ++ [entry]) = insert entry tally.ranking := by
  have hranks := ranks_ranking tally
  obtain ⟨front, back, hsplit, hinsert, hfront, hback⟩ := exists_insert hranks.falling entry
  rw [hsplit] at hranks
  rw [hinsert]
  exact (ranks_ranking _).unique (hranks.insert_between hfront hback)

/-- What stands behind the first places does not matter to them. -/
theorem take_insert_take (entry : Op × Int) (ranked : List (Op × Int)) (places : Nat) :
    (insert entry (ranked.take places)).take places = (insert entry ranked).take places := by
  induction ranked generalizing places with
  | nil => rw [List.take_nil]
  | cons head rest ih =>
      cases places with
      | zero => rfl
      | succ places =>
          rw [List.take_succ_cons, insert, insert]
          split
          case isTrue => rw [List.take_succ_cons, List.take_succ_cons, ih]
          case isFalse =>
            have hshorter : (head :: rest.take places).take places =
                (head :: rest).take places := by
              rw [← List.take_succ_cons, List.take_take, Nat.min_eq_left (Nat.le_succ places)]
            rw [List.take_succ_cons, List.take_succ_cons, hshorter]

/-- The leaders of a tally are the first places of its ranking. -/
theorem leaders_eq_take (tally : Tally) (places : Nat) :
    tally.leaders places = tally.ranking.take places := by
  induction tally using List.reverseRecOn with
  | nil => simp [leaders, ranking]
  | append_singleton tally entry ih =>
      have hlast : leaders (tally ++ [entry]) places =
          (insert entry (leaders tally places)).take places := List.foldl_append
      rw [hlast, ih, take_insert_take, ranking_concat]

/-- With a place for every entry the leaders are the ranking. -/
theorem ranking_eq_leaders (tally : Tally) : tally.ranking = tally.leaders tally.length := by
  rw [leaders_eq_take, ← List.length_mergeSort tally, ← ranking, List.take_length]

/-! ### Order of listing -/

theorem fst_update (tally : Tally) (change : Int → Int) (op : Op) :
    (tally.update change op).map Prod.fst =
      if op ∈ tally.map Prod.fst then tally.map Prod.fst else tally.map Prod.fst ++ [op] := by
  induction tally with
  | nil => rfl
  | cons entry rest ih =>
      rw [update]
      split
      case isTrue hop =>
        rw [if_pos (by simp [hop]), List.map_cons, List.map_cons, hop]
      case isFalse hop =>
        have hmem : op ∈ (entry :: rest).map Prod.fst ↔ op ∈ rest.map Prod.fst := by
          rw [List.map_cons, List.mem_cons]
          exact or_iff_right (Ne.symm hop)
        rw [List.map_cons, ih]
        simp only [hmem]
        split <;> rfl

theorem update_of_not_mem {tally : Tally} {op : Op} (h : op ∉ tally.map Prod.fst)
    (change : Int → Int) : tally.update change op = tally ++ [(op, change 0)] := by
  induction tally with
  | nil => rfl
  | cons entry rest ih =>
      rw [List.map_cons, List.mem_cons, not_or] at h
      rw [update, if_neg (Ne.symm h.1), ih h.2]
      rfl

/-- Counts of operations that are not listed are added as they are. -/
theorem merge_of_disjoint {tally : Tally} {counts : List (Op × Int)}
    (h : ((tally ++ counts).map Prod.fst).Nodup) : tally.merge counts = tally ++ counts := by
  induction counts generalizing tally with
  | nil => exact (List.append_nil tally).symm
  | cons entry counts ih =>
      have hentry : entry.1 ∉ tally.map Prod.fst := by
        rw [List.map_append, List.map_cons] at h
        exact fun hmem => (List.nodup_append.mp h).2.2 _ hmem _ List.mem_cons_self rfl
      have hadd : tally.add entry.1 entry.2 = tally ++ [entry] := by
        rw [add, update_of_not_mem hentry, Int.zero_add]
      rw [List.append_cons] at h ⊢
      calc tally.merge (entry :: counts) = (tally.add entry.1 entry.2).merge counts := rfl
        _ = (tally ++ [entry]).merge counts := by rw [hadd]
        _ = tally ++ [entry] ++ counts := ih h

/-- What is counted for the first time is listed last, in the order of the report. -/
theorem fst_merge (tally : Tally) {counts : List (Op × Int)} (h : (counts.map Prod.fst).Nodup) :
    (tally.merge counts).map Prod.fst =
      tally.map Prod.fst ++ (counts.map Prod.fst).filter (· ∉ tally.map Prod.fst) := by
  induction counts generalizing tally with
  | nil => exact (List.append_nil _).symm
  | cons entry counts ih =>
      obtain ⟨hentry, hcounts⟩ := List.nodup_cons.mp h
      have hmerge : tally.merge (entry :: counts) = (tally.add entry.1 entry.2).merge counts := rfl
      rw [hmerge, ih _ hcounts, add, fst_update, List.map_cons, List.filter_cons]
      by_cases hlisted : entry.1 ∈ tally.map Prod.fst
      · rw [if_pos hlisted, if_neg (by simpa using hlisted)]
      · -- The operation is listed now, but it does not occur in the report again.
        have hrest : (counts.map Prod.fst).filter (· ∉ tally.map Prod.fst ++ [entry.1]) =
            (counts.map Prod.fst).filter (· ∉ tally.map Prod.fst) := by
          refine List.filter_congr fun op hop => ?_
          have hne : op ≠ entry.1 := fun h => hentry (h ▸ hop)
          simp [hne]
        rw [if_neg hlisted, if_pos (by simpa using hlisted), hrest, List.append_assoc]
        rfl

/-- In a tally that lists no operation twice, an entry shows the count of its operation. -/
theorem mem_iff {tally : Tally} (h : (tally.map Prod.fst).Nodup) (op : Op) (count : Int) :
    (op, count) ∈ tally ↔ op ∈ tally.map Prod.fst ∧ count = Tally.count tally op := by
  induction tally with
  | nil => simp
  | cons entry rest ih =>
      obtain ⟨hentry, hrest⟩ := List.nodup_cons.mp h
      rw [List.mem_cons, ih hrest, List.map_cons, List.mem_cons, count_cons]
      by_cases hop : entry.1 = op
      · subst hop
        simp [Prod.ext_iff, hentry]
      · have hne : (op, count) ≠ entry := fun h => hop (congrArg Prod.fst h).symm
        simp [hne, hop, Ne.symm hop]

end Chip8.Tally
