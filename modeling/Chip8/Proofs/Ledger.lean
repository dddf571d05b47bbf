import Chip8.Ledger
import Chip8.Proofs.Machine.Rankings
import Chip8.Proofs.Ranking.Leaders

/-!
# Ledgers and metrics

A ledger takes values of any type, metrics only integers.  On integers the two are the same:
where a ledger holds what metrics hold (`Agrees`), every report leads to a ledger and metrics of
which this holds again (`Agrees.exists_record`), and the ledger ranks and sums up what the
metrics do (`Agrees.leaders`, `Agrees.statistics`).  So a host that passes the reports of a machine
on to a ledger finds in it what the machine's own metrics say (`Machine.ledger_run`).

A ledger takes its first counts over as they are, and metrics add them up even then.  This is
the same because no report counts an operation twice (`Event.Distinct`).
-/

namespace Chip8

open Ranking (Ranks)

/-! ### Integers as arguments -/

namespace Tally

/-- Counted operations as a ledger shows them. -/
def toArguments (counts : List (Op × Int)) : List (Op × Argument) :=
  counts.map fun entry => (entry.1, .integer entry.2)

variable {tally : Tally} {counts : List (Op × Count)}

/-- A ledger finds the count of an operation in its list. -/
theorem lookUp_eq (h : counts.map Ledger.shown = toArguments tally) (op : Op) :
    ((counts.find? fun listed => listed.1 == op).map fun listed => listed.2.value).getD
      (.integer 0) = .integer (tally.count op) := by
  induction counts generalizing tally with
  | nil =>
      rw [List.map_eq_nil_iff.mp h.symm]
      rfl
  | cons listed counts ih =>
      obtain ⟨entry, rest, rfl, hentry, hrest⟩ := List.map_eq_cons_iff.mp h.symm
      obtain ⟨hop, hvalue⟩ := Prod.mk.inj hentry
      rw [List.find?_cons, count_cons, hop]
      by_cases heq : listed.1 = op
      · simp [heq, hvalue]
      · have hne : (listed.1 == op) = false := by simpa using heq
        rw [hne, if_neg heq]
        exact ih hrest.symm

theorem shown_setCount (h : counts.map Ledger.shown = toArguments tally) (op : Op)
    (change : Int → Int) (given : Bool) :
    (Ledger.setCount op ⟨.integer (change (tally.count op)), given⟩ counts).map Ledger.shown =
      toArguments (tally.update change op) := by
  induction counts generalizing tally with
  | nil =>
      rw [List.map_eq_nil_iff.mp h.symm]
      rfl
  | cons listed counts ih =>
      obtain ⟨entry, rest, rfl, hentry, hrest⟩ := List.map_eq_cons_iff.mp h.symm
      obtain ⟨hop, hvalue⟩ := Prod.mk.inj hentry
      unfold Ledger.setCount update
      rw [count_cons, hop]
      by_cases heq : listed.1 = op
      · rw [if_pos heq, if_pos heq, if_pos heq]
        exact congrArg₂ List.cons rfl hrest.symm
      · rw [if_neg heq, if_neg heq, if_neg heq]
        exact congrArg₂ List.cons hentry.symm (ih hrest.symm)

/-- Adding to a count that is shown as an integer adds to the integer. -/
theorem exists_addCount (h : counts.map Ledger.shown = toArguments tally) (op : Op) (times : Int)
    (given : Bool) :
    ∃ next, Ledger.addCount counts (op, ⟨.integer times, given⟩) = .ok next ∧
      next.map Ledger.shown = toArguments (tally.add op times) := by
  have hsum : (Argument.integer times).plus
      (((counts.find? fun listed => listed.1 == op).map fun listed => listed.2.value).getD
        (.integer 0)) = .ok (.integer (tally.count op + times)) := by
    rw [lookUp_eq h, Argument.plus_integer, Int.add_comm]
  exact ⟨_, congrArg (fun sum => sum >>= fun value =>
      pure (Ledger.setCount op ⟨value, false⟩ counts)) hsum,
    shown_setCount h op (· + times) false⟩

end Tally

namespace Ledger

/-! ### Reports -/

/-- The counts of a report, as a host hands them over. -/
def ofReport (counts : List (Op × Int)) : List (Op × Count) :=
  counts.map fun entry => (entry.1, ⟨.integer entry.2, true⟩)

theorem shown_ofReport (counts : List (Op × Int)) :
    (ofReport counts).map shown = Tally.toArguments counts :=
  List.map_map

/-- Report an event of a machine. -/
def record (ledger : Ledger) : Event → Except Failure Ledger
  | .loaded _ => .ok ledger
  | .executed counts elapsed => ledger.executed (ofReport counts) (.integer elapsed)
  | .finished instructions _ => .ok (ledger.finished (.integer instructions))
  | .failed _ => .ok ledger.failed

theorem exists_foldlM_addCount {tally : Tally} {listed : List (Op × Count)}
    (h : listed.map shown = Tally.toArguments tally) (counts : List (Op × Int)) :
    ∃ next, (ofReport counts).foldlM addCount listed = .ok next ∧
      next.map shown = Tally.toArguments (tally.merge counts) := by
  unfold ofReport
  rw [List.foldlM_map]
  refine Ranking.exists_foldlM
    (fun seen (next : List (Op × Count)) =>
      next.map shown = Tally.toArguments (tally.merge seen))
    (fun seen entry rest listed hcounts hshown => ?_) h
  have hmerge : tally.merge (seen ++ [entry]) = (tally.merge seen).add entry.1 entry.2 :=
    List.foldl_append
  rw [hmerge]
  exact Tally.exists_addCount hshown entry.1 entry.2 true

/-- A ledger holds what metrics hold. -/
structure Agrees (ledger : Ledger) (metrics : Metrics) : Prop where
  counts : ledger.counts.map shown = Tally.toArguments metrics.tally
  elapsed : ledger.elapsed = .whole metrics.elapsed
  frames : ledger.frames = metrics.frames.map .integer
  faults : ledger.faults = metrics.faults.length

theorem agrees_empty : Agrees .empty .empty := ⟨rfl, rfl, rfl, rfl⟩

end Ledger

/-- An event counts no operation twice. -/
def Event.Distinct : Event → Prop
  | .executed counts _ => (counts.map Prod.fst).Nodup
  | .loaded _ | .finished _ _ | .failed _ => True

namespace Ledger.Agrees

variable {ledger : Ledger} {metrics : Metrics}

theorem exists_executed (h : ledger.Agrees metrics) {counts : List (Op × Int)}
    (hdistinct : (counts.map Prod.fst).Nodup) (elapsed : Int) :
    ∃ next, ledger.executed (ofReport counts) (.integer elapsed) = .ok next ∧
      next.Agrees (metrics.record (.executed counts elapsed)) := by
  unfold executed
  rw [h.elapsed]
  split
  case isTrue hempty =>
    have htally : metrics.tally = [] := by
      have hcounts := h.counts
      rw [List.isEmpty_iff.mp hempty] at hcounts
      exact List.map_eq_nil_iff.mp hcounts.symm
    have hmerge : metrics.tally.merge counts = counts := by
      rw [htally]
      exact Tally.merge_of_disjoint hdistinct
    refine ⟨_, rfl, ?_, rfl, h.frames, h.faults⟩
    show (ofReport counts).map shown = Tally.toArguments (metrics.tally.merge counts)
    rw [hmerge, shown_ofReport]
  case isFalse =>
    obtain ⟨next, hnext, hshown⟩ := exists_foldlM_addCount h.counts counts
    rw [hnext]
    exact ⟨_, rfl, hshown, rfl, h.frames, h.faults⟩

/-- A ledger and metrics that agree still do after an event. -/
theorem exists_record (h : ledger.Agrees metrics) {event : Event} (hdistinct : event.Distinct) :
    ∃ next, ledger.record event = .ok next ∧ next.Agrees (metrics.record event) := by
  cases event with
  | loaded size => exact ⟨ledger, rfl, h⟩
  | executed counts elapsed => exact h.exists_executed hdistinct elapsed
  | finished instructions elapsed =>
      refine ⟨ledger.finished (.integer instructions), rfl, h.counts, h.elapsed, ?_, h.faults⟩
      show ledger.frames ++ [.integer instructions] =
        (metrics.frames ++ [instructions]).map .integer
      rw [h.frames, List.map_append]
      rfl
  | failed fault =>
      refine ⟨ledger.failed, rfl, h.counts, h.elapsed, h.frames, ?_⟩
      show ledger.faults + 1 = (metrics.faults ++ [fault]).length
      rw [h.faults, List.length_append]
      rfl

theorem exists_foldlM_record (h : ledger.Agrees metrics) {events : List Event}
    (hdistinct : ∀ event ∈ events, event.Distinct) :
    ∃ last, events.foldlM record ledger = .ok last ∧
      last.Agrees (events.foldl Metrics.record metrics) := by
  refine Ranking.exists_foldlM
    (fun seen (last : Ledger) => last.Agrees (seen.foldl Metrics.record metrics))
    (fun seen event rest ledger hevents hagrees => ?_) h
  rw [List.foldl_append]
  exact hagrees.exists_record (hdistinct event (by simp [hevents]))

end Ledger.Agrees

/-! ### Ranking -/

namespace Ledger

/-- An entry by an integer, which is zero where the count is none. -/
def counted (entry : Op × Count) : Op × Int := (entry.1, entry.2.value.integer?.getD 0)

namespace Agrees

variable {ledger : Ledger} {metrics : Metrics}

theorem counted_eq (h : ledger.Agrees metrics) : ledger.counts.map counted = metrics.tally := by
  have hmap := congrArg (List.map fun entry => (entry.1, entry.2.integer?.getD 0)) h.counts
  unfold Tally.toArguments at hmap
  rw [List.map_map, List.map_map] at hmap
  exact hmap.trans (List.map_id _)

theorem value_eq (h : ledger.Agrees metrics) {entry : Op × Count} (hmem : entry ∈ ledger.counts) :
    entry.2.value = .integer (counted entry).2 := by
  have hshown : shown entry ∈ Tally.toArguments metrics.tally := by
    rw [← h.counts]
    exact List.mem_map_of_mem hmem
  obtain ⟨listed, -, hlisted⟩ := List.mem_map.mp hshown
  have hvalue : entry.2.value = .integer listed.2 := (congrArg Prod.snd hlisted).symm
  rw [counted, hvalue]
  rfl

/-- Integers are compared without fail. -/
theorem follows (h : ledger.Agrees metrics) :
    byCount.Follows (fun entry => (counted entry).2) ledger.counts where
  less first hfirst second hsecond := by
    show first.2.value.less second.2.value = _
    rw [h.value_eq hfirst, h.value_eq hsecond, Argument.less_integer]
  same first hfirst second hsecond := by
    show (!isLost first.2 && !isLost second.2 && first.2.value.same second.2.value) = _
    unfold isLost
    rw [h.value_eq hfirst, h.value_eq hsecond, Argument.same_integer]
    simp [Argument.isUndefined, Quantity.isUndefined, Bool.beq_eq_decide_eq]

theorem shown_eq (h : ledger.Agrees metrics) {ranked : List (Op × Count)}
    (hranks : Ranks (fun entry => (counted entry).2) ledger.counts ranked) :
    ranked.map shown = Tally.toArguments metrics.tally.ranking := by
  have hcounted : ranked.map counted = metrics.tally.ranking := by
    have hmap : Ranks Prod.snd (ledger.counts.map counted) (ranked.map counted) := hranks.map
    rw [h.counted_eq] at hmap
    exact hmap.unique (Tally.ranks_ranking metrics.tally)
  rw [← hcounted, Tally.toArguments, List.map_map]
  refine List.map_congr_left fun entry hmem => ?_
  exact Prod.ext rfl (h.value_eq (hranks.perm.mem_iff.mp hmem))

/-- A ledger ranks its operations as the metrics do. -/
theorem ranking (h : ledger.Agrees metrics) :
    ledger.ranking = .ok (Tally.toArguments metrics.tally.ranking) := by
  obtain ⟨ranked, hranked, hranks⟩ := Ranking.exists_descending h.follows.less
  unfold Ledger.ranking
  rw [hranked, ← h.shown_eq hranks]
  rfl

/-- A ledger has the same operations in its first places, although it finds them in another
way. -/
theorem leaders (h : ledger.Agrees metrics) (places : Int) :
    ledger.leaders (.integer places) =
      .ok (Tally.toArguments (metrics.tally.leaders places.toNat)) := by
  obtain ⟨ranked, hranks⟩ := Ranking.exists_ranks (fun entry => (counted entry).2) ledger.counts
  have hleaders := Ranking.Comparison.leaders_eq_take h.follows hranks places.toNat
  have htake : (ranked.take places.toNat).map shown =
      Tally.toArguments (metrics.tally.leaders places.toNat) := by
    rw [List.map_take, h.shown_eq hranks, Tally.leaders_eq_take, Tally.toArguments,
      Tally.toArguments, List.map_take]
  show (byCount.leaders places.toNat ledger.counts >>= fun leaders => pure (leaders.map shown)) = _
  rw [hleaders, ← htake]
  rfl

end Agrees

end Ledger

/-! ### Statistics -/

/-- A spread as a ledger shows it, which it cannot if the mean is beyond the largest double. -/
def Spread.toArguments : Option Spread → Except Failure (Option Ledger.Spread)
  | none => .ok none
  | some spread => do
      let mean ← Argument.orInfinite spread.mean
      return some {
        mean
        least := .integer spread.least
        most := .integer spread.most
        last := .integer spread.last }

/-- Statistics as a ledger shows them. -/
def Statistics.toArguments (statistics : Statistics) : Except Failure Ledger.Statistics := do
  let spread ← Spread.toArguments statistics.spread
  return {
    frames := statistics.frames
    instructions := .integer statistics.instructions
    elapsed := .whole statistics.elapsed
    faults := statistics.faults
    ops := Tally.toArguments statistics.ops
    spread }

namespace Ledger

theorem smaller_integer (first second : Int) :
    smaller (.integer first) (.integer second) = decide (first < second) :=
  Quantity.less_whole first second

theorem meanBits_integers (frames : List Int) :
    Argument.meanBits (frames.map .integer) =
      Argument.orInfinite (Number.quotientBits (frames.foldl (· + ·) 0) frames.length) := by
  unfold Argument.meanBits
  rw [Argument.total_integers, List.length_map]
  rfl

/-- Choosing one of some integers by comparing each with the one chosen so far. -/
theorem foldl_integers {chosen : Argument → Argument → Argument} {choose : Int → Int → Int}
    (h : ∀ first second, chosen (.integer first) (.integer second) = .integer (choose first second))
    (values : List Int) (first : Int) :
    (values.map .integer).foldl chosen (.integer first) = .integer (values.foldl choose first) := by
  induction values generalizing first with
  | nil => rfl
  | cons value values ih =>
      rw [List.map_cons, List.foldl_cons, List.foldl_cons, h, ih]

theorem spread_integers (frames : List Int) :
    spread (frames.map .integer) = Spread.toArguments (Metrics.spread frames) := by
  cases frames with
  | nil => rfl
  | cons first rest =>
      have hleast : (rest.map .integer).foldl
          (fun least next => if smaller next least then next else least) (.integer first) =
            .integer
              (rest.foldl (fun least next => if next < least then next else least) first) := by
        refine foldl_integers (fun least next => ?_) rest first
        by_cases hless : next < least <;> simp [smaller_integer, hless]
      have hmost : (rest.map .integer).foldl
          (fun most next => if smaller most next then next else most) (.integer first) =
            .integer
              (rest.foldl (fun most next => if most < next then next else most) first) := by
        refine foldl_integers (fun most next => ?_) rest first
        by_cases hless : most < next <;> simp [smaller_integer, hless]
      have hlast : (rest.map Argument.integer).getLastD (.integer first) =
          .integer ((first :: rest).getLast (List.cons_ne_nil first rest)) := by
        rw [List.getLast_eq_getLastD, List.getLastD_map]
      rw [List.map_cons, spread, ← List.map_cons, meanBits_integers, hleast, hmost, hlast]
      rfl

namespace Agrees

variable {ledger : Ledger} {metrics : Metrics}

/-- A ledger shows the statistics of the metrics. -/
theorem statistics (h : ledger.Agrees metrics) :
    ledger.statistics = metrics.statistics.toArguments := by
  have hcounts : (ledger.counts.map fun entry => entry.2.value) =
      (metrics.tally.map Prod.snd).map .integer := by
    have hvalues := congrArg (List.map Prod.snd) h.counts
    unfold Tally.toArguments at hvalues
    rw [List.map_map, List.map_map] at hvalues
    rw [List.map_map]
    exact hvalues
  have htotal : Argument.total (ledger.counts.map fun entry => entry.2.value) =
      .ok (.integer metrics.tally.total) := by
    rw [hcounts, Argument.total_integers, List.foldl_map]
    rfl
  have hspread : Ledger.spread ledger.frames =
      Spread.toArguments (Metrics.spread metrics.frames) := by
    rw [h.frames, spread_integers]
  have hlength : ledger.frames.length = metrics.frames.length := by
    rw [h.frames, List.length_map]
  unfold Ledger.statistics Statistics.toArguments Metrics.statistics
  rw [htotal, h.ranking, hspread, hlength, h.elapsed, h.faults]
  rfl

end Agrees

end Ledger

/-! ### Reports of a machine -/

theorem State.distinct_of_mem_reports {state : State} {keypad : UInt16} {event : Event}
    (h : event ∈ state.reports keypad) : event.Distinct := by
  rcases List.mem_cons.mp h with rfl | h
  · have hordered := FrameStats.pairwise_opCounts (state.runFrame keypad).2
    refine hordered.imp fun {first second} hlt heq => ?_
    subst heq
    exact Nat.lt_irrefl _ hlt
  · obtain rfl := List.mem_singleton.mp h
    cases (state.beginFrame keypad).walk.fault <;> trivial

theorem Exchange.distinct_of_mem_reports {exchange : Exchange} {event : Event}
    (h : event ∈ exchange.reports) : event.Distinct := by
  unfold reports at h
  split at h
  · split at h
    · exact State.distinct_of_mem_reports h
    · exact absurd h List.not_mem_nil
  all_goals exact absurd h List.not_mem_nil

/-- A ledger that is told all that the calls of a host report agrees with the metrics of the
machine if it did before. -/
theorem Machine.exists_agrees_run {machine : Machine} (hsteady : machine.Steady) {place : Nat}
    {sums : Metrics} (hsums : machine.sumsAt place = some sums) {ledger : Ledger}
    (hagrees : ledger.Agrees sums) (calls : List Call) :
    ∃ last after, ((machine.exchanges calls).flatMap Exchange.reports).foldlM Ledger.record
        ledger = .ok last ∧
      (machine.run calls).sumsAt place = some after ∧ last.Agrees after := by
  have hdistinct : ∀ event ∈ (machine.exchanges calls).flatMap Exchange.reports,
      event.Distinct := by
    intro event hevent
    obtain ⟨exchange, -, hevent⟩ := List.mem_flatMap.mp hevent
    exact Exchange.distinct_of_mem_reports hevent
  obtain ⟨last, hlast, hall⟩ := hagrees.exists_foldlM_record hdistinct
  refine ⟨last, _, hlast, ?_, hall⟩
  rw [hsteady.sumsAt_run, hsums]
  rfl

/-- Whatever a host calls for, an empty ledger that is told the reports shows the same statistics
and the same first places as metrics that the machine tells them. -/
theorem Machine.ledger_run {logger : Console.Logger} {early late : List Observer}
    (hlogger : logger.Steady) (hearly : ∀ observer ∈ early, observer.Steady)
    (hlate : ∀ observer ∈ late, observer.Steady) (state : State) (now : Float)
    (calls : List Call) :
    let start := Machine.fresh state logger (early ++ .metrics .empty :: late) (.real now)
    ∃ ledger sums,
      ((start.exchanges calls).flatMap Exchange.reports).foldlM Ledger.record .empty =
        .ok ledger ∧
      (start.run calls).sumsAt early.length = some sums ∧
      ledger.statistics = sums.statistics.toArguments ∧
      ∀ places : Int, ledger.leaders (.integer places) =
        .ok (Tally.toArguments (sums.tally.leaders places.toNat)) := by
  intro start
  have hsteady : start.Steady :=
    Machine.steady_fresh_metrics hlogger hearly hlate state .empty now
  have hsums : start.sumsAt early.length = some .empty := by
    simp [start, Machine.fresh, Machine.sumsAt]
  obtain ⟨ledger, sums, hledger, hrun, hagrees⟩ :=
    Machine.exists_agrees_run hsteady hsums Ledger.agrees_empty calls
  exact ⟨ledger, sums, hledger, hrun, hagrees.statistics, hagrees.leaders⟩

end Chip8
