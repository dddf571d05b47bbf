import Mathlib.Data.List.Dedup
import Chip8.Proofs.Machine.Accounts
import Chip8.Proofs.Tally.Ranking

/-!
# Rankings of a host's calls

An observer that adds up lists every operation that was carried out, with the number of times
that it was, by falling number.  Operations with equal numbers are ranked by history: the
frame that carried an operation out first decides, even if it failed or lies far back, and
within a frame the number of the operation.  This is the order in which a tally lists its
operations (`Listing`): a report adds those that are new, by their numbers, behind the others
(`Listing.append`).
-/

namespace Chip8

/-! ### The operations of a report -/

namespace Op

theorem mem_all (op : Op) : op ∈ all.toList := by
  cases op <;> decide

theorem name_injective : Function.Injective name := by
  have hnodup : (all.toList.map name).Nodup := by decide
  exact fun first second h => List.inj_on_of_nodup_map hnodup first.mem_all second.mem_all h

end Op

namespace FrameStats

theorem fst_opCounts (stats : FrameStats) :
    stats.opCounts.map Prod.fst =
      Op.all.toList.filter fun op => (stats.count op).toInt != 0 := by
  rw [opCounts, List.filter_map, List.map_map]
  exact List.map_id _

theorem pairwise_opCounts (stats : FrameStats) :
    (stats.opCounts.map Prod.fst).Pairwise fun first second => first.code < second.code := by
  have hall : Op.all.toList.Pairwise fun first second => first.code < second.code := by decide
  rw [fst_opCounts]
  exact hall.filter _

end FrameStats

theorem State.mem_opCounts_runFrame (state : State) (keypad : UInt16) (op : Op) :
    op ∈ (state.runFrame keypad).2.opCounts.map Prod.fst ↔
      ∃ stride ∈ (state.beginFrame keypad).walk.strides, stride.instruction.op = op := by
  have hpos : 0 < (state.beginFrame keypad).walk.strides.countP
      (fun stride => stride.instruction.op = op) ↔
        ∃ stride ∈ (state.beginFrame keypad).walk.strides, stride.instruction.op = op := by
    simp only [List.countP_pos_iff, decide_eq_true_eq]
  rw [FrameStats.fst_opCounts, List.mem_filter, and_iff_right op.mem_all,
    State.toInt_count_runFrame, bne_iff_ne, ← hpos]
  omega

/-! ### History -/

namespace Exchange

/-- Whether an operation was carried out to answer a call. -/
def carriesOut (exchange : Exchange) (op : Op) : Bool :=
  exchange.strides.any fun stride => stride.instruction.op = op

theorem exists_carriesOut_iff {exchanges : List Exchange} {op : Op} :
    (∃ exchange ∈ exchanges, exchange.carriesOut op) ↔
      op ∈ (exchanges.flatMap strides).map fun stride => stride.instruction.op := by
  simp only [carriesOut, List.any_eq_true, decide_eq_true_eq, List.mem_map, List.mem_flatMap]
  constructor
  · rintro ⟨exchange, hexchange, stride, hstride, hop⟩
    exact ⟨stride, ⟨exchange, hexchange, hstride⟩, hop⟩
  · rintro ⟨stride, ⟨exchange, hexchange, hstride⟩, hop⟩
    exact ⟨exchange, hexchange, stride, hstride, hop⟩

/-- The place of the first call that carried an operation out. -/
def firstRun (op : Op) (exchanges : List Exchange) : Nat :=
  exchanges.findIdx (·.carriesOut op)

/-- The first frame that carried out one operation comes before that of another one, or it is
the same frame and the one operation has the smaller number. -/
def Earlier (exchanges : List Exchange) (first second : Op) : Prop :=
  firstRun first exchanges < firstRun second exchanges ∨
    firstRun first exchanges = firstRun second exchanges ∧ first.code < second.code

variable {past : List Exchange} {op : Op}

/-- What was carried out once keeps its first frame. -/
theorem firstRun_append (h : ∃ exchange ∈ past, exchange.carriesOut op) (later : List Exchange) :
    firstRun op (past ++ later) = firstRun op past := by
  rw [firstRun, List.findIdx_append, if_pos (List.findIdx_lt_length.mpr h)]
  rfl

theorem firstRun_lt (h : ∃ exchange ∈ past, exchange.carriesOut op) :
    firstRun op past < past.length :=
  List.findIdx_lt_length.mpr h

theorem firstRun_concat (h : ¬∃ exchange ∈ past, exchange.carriesOut op) {exchange : Exchange}
    (hnew : exchange.carriesOut op) : firstRun op (past ++ [exchange]) = past.length := by
  rw [firstRun, List.findIdx_append, if_neg (mt List.findIdx_lt_length.mp h),
    List.findIdx_cons, hnew]
  exact Nat.zero_add _

end Exchange

open Exchange (Earlier firstRun)

/-- A tally lists what was carried out so far, in the order in which it was first. -/
structure Listing (past : List Exchange) (tally : Tally) : Prop where
  mem_iff : ∀ op, op ∈ tally.map Prod.fst ↔ ∃ exchange ∈ past, exchange.carriesOut op
  ordered : (tally.map Prod.fst).Pairwise (Earlier past)

namespace Listing

variable {past : List Exchange} {tally : Tally}

theorem nodup (h : Listing past tally) : (tally.map Prod.fst).Nodup := by
  refine h.ordered.imp fun {first second} hearlier heq => ?_
  subst heq
  rcases hearlier with hlt | ⟨-, hlt⟩
  · exact Nat.lt_irrefl _ hlt
  · exact Nat.lt_irrefl _ hlt

/-- A report adds what is new behind the others. -/
theorem append (h : Listing past tally) {exchange : Exchange} {counts : List (Op × Int)}
    (hmem : ∀ op, op ∈ counts.map Prod.fst ↔ exchange.carriesOut op)
    (hordered : (counts.map Prod.fst).Pairwise fun first second => first.code < second.code) :
    Listing (past ++ [exchange]) (tally.merge counts) := by
  have hnodup : (counts.map Prod.fst).Nodup := hordered.imp fun hlt heq => by
    subst heq
    exact Nat.lt_irrefl _ hlt
  have hnew : ∀ op, op ∈ (counts.map Prod.fst).filter (· ∉ tally.map Prod.fst) ↔
      exchange.carriesOut op ∧ ¬∃ exchange ∈ past, exchange.carriesOut op := by
    intro op
    rw [List.mem_filter, decide_eq_true_eq, hmem, h.mem_iff]
  refine ⟨fun op => ?_, ?_⟩
  · have hsplit : (∃ other ∈ past ++ [exchange], other.carriesOut op) ↔
        (∃ other ∈ past, other.carriesOut op) ∨ exchange.carriesOut op := by
      simp [or_and_right, exists_or]
    rw [Tally.fst_merge _ hnodup, List.mem_append, hnew, h.mem_iff, hsplit]
    constructor
    · exact Or.imp_right And.left
    · rintro (hran | hnow)
      · exact Or.inl hran
      · exact (Classical.em _).imp_right fun hfirst => ⟨hnow, hfirst⟩
  · rw [Tally.fst_merge _ hnodup]
    refine List.pairwise_append.mpr ⟨?_, ?_, ?_⟩
    · -- Whatever is listed already keeps its first frame.
      refine h.ordered.imp_of_mem fun {first second} hfirst hsecond hearlier => ?_
      rw [Earlier, Exchange.firstRun_append ((h.mem_iff first).mp hfirst),
        Exchange.firstRun_append ((h.mem_iff second).mp hsecond)]
      exact hearlier
    · -- All that is new has this call for its first, and the report decides.
      refine (hordered.filter _).imp_of_mem fun {first second} hfirst hsecond hlt => ?_
      obtain ⟨hfirst, hfirstNew⟩ := (hnew first).mp hfirst
      obtain ⟨hsecond, hsecondNew⟩ := (hnew second).mp hsecond
      refine Or.inr ⟨?_, hlt⟩
      rw [Exchange.firstRun_concat hfirstNew hfirst, Exchange.firstRun_concat hsecondNew hsecond]
    · intro first hfirst second hsecond
      obtain ⟨hsecond, hsecondNew⟩ := (hnew second).mp hsecond
      have hran := (h.mem_iff first).mp hfirst
      refine Or.inl ?_
      rw [Exchange.firstRun_append hran, Exchange.firstRun_concat hsecondNew hsecond]
      exact Exchange.firstRun_lt hran

theorem append_quiet (h : Listing past tally) {exchange : Exchange}
    (hquiet : exchange.strides = []) : Listing (past ++ [exchange]) tally := by
  have hnone : ∀ op, exchange.carriesOut op = false := by
    intro op
    rw [Exchange.carriesOut, hquiet, List.any_nil]
  have hmerged : Listing (past ++ [exchange]) (tally.merge []) :=
    h.append (by simp [hnone]) .nil
  exact hmerged

theorem answer {machine : Machine} (hsteady : machine.Steady) {place : Nat} {sums : Metrics}
    (hsums : machine.sumsAt place = some sums) (h : Listing past sums.tally) (call : Call) :
    ∃ after, (machine.answer call).1.sumsAt place = some after ∧
      Listing (past ++ [⟨machine, call⟩]) after.tally := by
  rcases hsteady.answer_cases call with ⟨hreloaded, hstrides, -⟩ |
    ⟨keypad, hanswer, hstrides, -⟩
  · refine ⟨sums, ?_, h.append_quiet hstrides⟩
    rw [hreloaded.sums, hsums]
  · rw [hanswer]
    refine ⟨(machine.state.reports keypad).foldl Metrics.record sums, ?_, ?_⟩
    · rw [hsteady.sumsAt_runMask, hsums, Option.map_some]
    · rw [State.tally_reports]
      refine h.append (fun op => ?_) (FrameStats.pairwise_opCounts _)
      rw [State.mem_opCounts_runFrame, Exchange.carriesOut, hstrides]
      simp

/-- What an observer has added up since a machine was made is listed by history. -/
theorem run {start : Machine} (hsteady : start.Steady) {place : Nat}
    (hsums : start.sumsAt place = some .empty) (calls : List Call) :
    ∃ sums, (start.run calls).sumsAt place = some sums ∧
      Listing (start.exchanges calls) sums.tally := by
  let listed (past : List Exchange) (machine : Machine) : Prop :=
    ∃ sums, machine.sumsAt place = some sums ∧ Listing past sums.tally
  have hanswer : ∀ past (machine : Machine) call, machine.Steady → listed past machine →
      listed (past ++ [⟨machine, call⟩]) (machine.answer call).1 := by
    rintro past machine call hsteady ⟨sums, hsums, hlisting⟩
    exact hlisting.answer hsteady hsums call
  have hopening : listed [] start := ⟨.empty, hsums, fun op => by simp [Metrics.empty], .nil⟩
  exact hsteady.run_induction hanswer calls hopening

end Listing

/-- The ranking of an observer that adds up from the start is exact after any calls of a host,
frames that failed among them, as long as nothing that is told or logged to fails.

It has every operation that was carried out, once and with the number of times that it was,
and nothing besides.  It is sorted by falling number, then by the frame in which an operation
was carried out first, then by the number of the operation.  The leaders are its first places,
and all of it if there are at least as many places as operations that were carried out. -/
theorem rankings_exact {logger : Console.Logger} {early late : List Observer}
    (hlogger : logger.Steady) (hearly : ∀ observer ∈ early, observer.Steady)
    (hlate : ∀ observer ∈ late, observer.Steady) (seed : UInt64) (now : Float)
    (calls : List Call) :
    let start := Machine.fresh (.ofSeed seed) logger (early ++ .metrics .empty :: late) (.real now)
    let exchanges := start.exchanges calls
    let executed := (exchanges.flatMap Exchange.strides).map fun stride => stride.instruction.op
    ∃ sums, (start.run calls).observers[early.length]? = some (.metrics sums) ∧
      (∀ op count, (op, count) ∈ sums.statistics.ops ↔
        op ∈ executed ∧ count = executed.count op) ∧
      (sums.statistics.ops.map fun entry => entry.1.name).Nodup ∧
      (sums.statistics.ops.Pairwise fun first second =>
        second.2 < first.2 ∨ first.2 = second.2 ∧ Earlier exchanges first.1 second.1) ∧
      (∀ places, sums.tally.leaders places = sums.statistics.ops.take places) ∧
      ∀ places, executed.dedup.length ≤ places →
        sums.tally.leaders places = sums.statistics.ops := by
  intro start exchanges executed
  have hsteady : start.Steady :=
    Machine.steady_fresh_metrics hlogger hearly hlate (.ofSeed seed) .empty now
  have hsums : start.sumsAt early.length = some .empty := by
    simp [start, Machine.fresh, Machine.sumsAt]
  obtain ⟨sums, hfound, hlisting⟩ := Listing.run hsteady hsums calls
  obtain ⟨same, hsame, accounts⟩ :=
    (Accounts.opening seed logger _ _).run hsteady hsums calls
  obtain rfl : sums = same := Option.some.inj (hfound.symm.trans hsame)
  have hcount : ∀ op, sums.tally.count op = executed.count op := by
    intro op
    rw [accounts.count, List.count, List.countP_map]
    rfl
  have hmem : ∀ op, op ∈ sums.tally.map Prod.fst ↔ op ∈ executed := fun op =>
    (hlisting.mem_iff op).trans Exchange.exists_carriesOut_iff
  have hranked : sums.statistics.ops.Perm sums.tally :=
    List.mergeSort_perm sums.tally Tally.before
  have hdistinct : (sums.tally.map Prod.fst).Perm executed.dedup := by
    refine (List.perm_ext_iff_of_nodup hlisting.nodup executed.nodup_dedup).mpr fun op => ?_
    rw [hmem, List.mem_dedup]
  refine ⟨sums, (Machine.sumsAt_eq_some_iff _ _).mp hfound, ?_, ?_,
    Tally.pairwise_ranking hlisting.ordered, Tally.leaders_eq_take _, ?_⟩
  · intro op count
    rw [hranked.mem_iff, Tally.mem_iff hlisting.nodup, hmem, hcount]
  · have hnodup : (sums.statistics.ops.map Prod.fst).Nodup :=
      (hranked.map Prod.fst).nodup_iff.mpr hlisting.nodup
    have hnames := hnodup.map Op.name_injective
    rw [List.map_map] at hnames
    exact hnames
  · intro places hplaces
    have hlength : sums.statistics.ops.length = executed.dedup.length := by
      rw [hranked.length_eq, ← hdistinct.length_eq, List.length_map]
    rw [Tally.leaders_eq_take]
    exact List.take_of_length_le (hlength.trans_le hplaces)

/-- The ranking of a program that draws twice and then fails, on a machine that also writes
summaries. -/
theorem rankings_exact_retries :
    let summary : Observer := .summary ⟨.integer 60, plainConsole⟩
    let start :=
      Machine.fresh (.ofSeed 0) plainConsole [.passive, .metrics .empty, summary] (.real 0)
    (plainConsole.Steady ∧ Observer.passive.Steady ∧ summary.Steady) ∧
      ∃ sums, (start.run spriteCalls).observers[1]? = some (.metrics sums) ∧
        sums.statistics.ops = [(.drw, 2), (.ldImm, 1)] ∧
        sums.tally.leaders 1 = [(.drw, 2)] ∧
        sums.tally.leaders 2 = sums.statistics.ops := by
  intro summary start
  have hsummary : summary.Steady :=
    Observer.steady_summary rfl (by decide) steady_plainConsole
  have hearly : ∀ observer ∈ [Observer.passive], observer.Steady :=
    List.forall_mem_singleton.mpr Observer.steady_passive
  have hlate : ∀ observer ∈ [summary], observer.Steady := List.forall_mem_singleton.mpr hsummary
  obtain ⟨sums, hfound, -, -, -, hleaders, -⟩ :=
    rankings_exact steady_plainConsole hearly hlate 0 0 spriteCalls
  have hsteady : start.Steady :=
    Machine.steady_fresh_metrics steady_plainConsole hearly hlate _ .empty 0
  have hsums := Machine.sums_spriteCalls hsteady rfl rfl rfl rfl hfound
  have hranked : sums.statistics.ops = [(.drw, 2), (.ldImm, 1)] := by
    rw [hsums, Metrics.statistics, Tally.ranking_eq_leaders]
    rfl
  refine ⟨⟨steady_plainConsole, Observer.steady_passive, hsummary⟩, sums, hfound, hranked, ?_, ?_⟩
  · rw [hleaders, hranked]
    rfl
  · rw [hleaders, hranked]
    rfl

end Chip8
