import Chip8.Proofs.Machine.Notices
import Chip8.Proofs.Machine.Utterances
import Chip8.Proofs.Text.Columns

/-!
# Summaries of a host's calls

An observer that writes summaries keeps no count of its own.  When it is told that a frame
was finished it looks at the machine, and what it sees counted there are the frames that came
through, that frame among them.  So what it writes about finished frames are the lines of
those frames whose ordinal its interval divides, once each and in order, whatever is loaded,
refused or stopped by a fault in between.

What a line is is spelled out letter by letter, with columns from which the numbers can be
read (`Logger.Prints`, `Exchange.SummaryLine`, `Exchange.ErrorLine`).

## Strategy

`Observer.text_finished` and its companions say what such an observer writes about one event.
`Exchange.Summarized` is what it comes to for one call: a call that is not a frame, or is
refused, says nothing about the end of one (`of_aside`), a frame that came through has a line
if it is due (`of_finished`), and one that a fault stopped has a line about the fault
(`of_aborted`).  The calls of a host are put together by induction (`exists_said`,
`linesOf_flatten`), with the ordinal of the next frame as the invariant.
-/

namespace Chip8

open Console (Level Logger Summary)
open Text (IsDecimal IsHexadecimal decimal hexadecimal readColumn?)
open Utterance (linesOf)

/-! ### Lines -/

namespace Console.Logger

variable {logger : Logger} {clock : Argument} {message line : String}

/-- What a line starts with: the time since the logger was opened, in seconds with two decimals
and in eight places, if the logger shows times, and nothing otherwise. -/
def Stamps (logger : Logger) (clock : Argument) (stamp : String) : Prop :=
  if logger.timed then
    ∃ time : Float, logger.elapsed clock = .ok time ∧
      stamp = "[" ++ Text.alignRight 8 (Number.fixed 2 time) ++ "s]"
  else stamp = ""

/-- A line shows a message: behind the time stands the tag of a level, in a colour if the
logger uses colours, then the name of the logger, and then the message. -/
def Prints (logger : Logger) (clock : Argument) (color tag message line : String) : Prop :=
  ∃ stamp shown, logger.Stamps clock stamp ∧
    shown = (if logger.colored.isTrue then color ++ tag ++ "\x1b[0m" else tag) ∧
    line = stamp ++ shown ++ "[" ++ logger.name.print ++ "] " ++ message ++ "\n"

theorem stamps_of_ok {stamp : String} (h : logger.stamp clock = .ok stamp) :
    logger.Stamps clock stamp := by
  rw [Logger.stamp] at h
  rw [Stamps]
  split
  case isTrue htimed =>
    rw [if_pos htimed] at h
    cases htime : logger.elapsed clock with
    | error failure =>
        rw [htime] at h
        contradiction
    | ok time =>
        rw [htime] at h
        exact ⟨time, rfl, (Except.ok.inj h).symm⟩
  case isFalse hplain =>
    rw [if_neg hplain] at h
    exact (Except.ok.inj h).symm

theorem prints_text {stamp : String} (hstamp : logger.stamp clock = .ok stamp) {level : Level}
    (hpasses : logger.Passes level) (message : String) :
    logger.Prints clock level.color ("[" ++ Text.alignRight 8 level.name ++ "]") message
      (logger.text clock level message) := by
  have hwrite : logger.write clock level message = .ok (stamp ++ logger.line level message) := by
    rw [write, if_pos hpasses, hstamp]
    rfl
  refine ⟨stamp, logger.levelTag level, stamps_of_ok hstamp, rfl, ?_⟩
  rw [text, hwrite, line]
  simp only [String.append_assoc]

theorem prints_info {stamp : String} (hstamp : logger.stamp clock = .ok stamp)
    (hpasses : logger.Passes .info) (message : String) :
    logger.Prints clock "\x1b[32m" "[    INFO]" message (logger.text clock .info message) := by
  have htag : "[" ++ Text.alignRight 8 (Level.name .info) ++ "]" = "[    INFO]" := by decide
  rw [← htag]
  exact prints_text hstamp hpasses message

theorem Passes.error (h : logger.Passes .info) : logger.Passes .error :=
  Nat.le_trans h (by decide)

theorem prints_error {stamp : String} (hstamp : logger.stamp clock = .ok stamp)
    (hpasses : logger.Passes .info) (message : String) :
    logger.Prints clock "\x1b[31m" "[   ERROR]" message (logger.text clock .error message) := by
  have htag : "[" ++ Text.alignRight 8 (Level.name .error) ++ "]" = "[   ERROR]" := by decide
  rw [← htag]
  exact prints_text hstamp hpasses.error message

theorem Prints.ne_empty {color tag : String} (h : logger.Prints clock color tag message line) :
    line ≠ "" := by
  obtain ⟨stamp, shown, -, -, rfl⟩ := h
  simp

end Console.Logger

/-! ### What is written about an event -/

namespace Observer

variable {summary : Summary} {moment : Moment}

theorem text_of_write {level : Level} {message : String}
    (h : summary.react moment.clock moment.notice =
      summary.logger.write moment.clock level message) :
    (Observer.summary summary).text moment =
      summary.logger.text moment.clock level message := by
  rw [text, respond, h, Logger.text]
  cases summary.logger.write moment.clock level message <;> rfl

theorem text_executed {counts : List (Op × Int)} {elapsed : Int}
    (h : moment.event = .executed counts elapsed) :
    (Observer.summary summary).text moment = "" := by
  have hevent : moment.notice.event = .executed counts elapsed := h
  rw [text, respond, Summary.react, hevent]

theorem text_failed {fault : Fault} (h : moment.event = .failed fault) :
    (Observer.summary summary).text moment =
      summary.logger.text moment.clock .error
        ("Frame " ++ toString (moment.core.frames : Int) ++ " aborted: " ++ fault.message) := by
  have hevent : moment.notice.event = .failed fault := h
  have hframes : moment.notice.frames = (moment.core.frames : Int) := rfl
  apply text_of_write
  rw [Summary.react, hevent, hframes]
  simp only [Summary.onError, Argument.print_integer]

theorem text_finished {interval : Int} (hinterval : summary.interval = .integer interval)
    (hne : interval ≠ 0) {instructions elapsed : Int}
    (h : moment.event = .finished instructions elapsed) :
    (Observer.summary summary).text moment =
      if interval ∣ (moment.core.frames : Int) then
        summary.logger.text moment.clock .info
          ("Frame " ++ decimal 6 moment.core.frames ++ " | " ++ decimal 4 instructions ++
            " instructions | " ++ decimal 6 elapsed ++ "us | PC=0x" ++
            hexadecimal 3 moment.core.state.pc.toNat ++ " | tone=" ++
            (if moment.core.state.tone then "on" else "off"))
      else "" := by
  have hevent : moment.notice.event = .finished instructions elapsed := h
  have hdue : summary.isDue 0 (Console.Sight.ofNotice moment.notice).frames =
      .ok ((moment.core.frames : Int) % interval == 0) :=
    Summary.isDue_integer hinterval hne 0 moment.notice.frames
  have hreact : summary.react moment.clock moment.notice =
      summary.onFrame 0 moment.clock (.ofNotice moment.notice) (.integer instructions)
        (.integer elapsed) := by
    rw [Summary.react, hevent]
  simp only [Summary.onFrame, hdue, Summary.frameText_ofNotice, bind, Except.bind] at hreact
  split
  case isTrue hdvd =>
    apply text_of_write
    rw [hreact, Int.emod_eq_zero_of_dvd hdvd]
    rfl
  case isFalse hdvd =>
    have hmod : (moment.core.frames : Int) % interval ≠ 0 := fun h =>
      hdvd (Int.dvd_of_emod_eq_zero h)
    rw [beq_eq_false_iff_ne.mpr hmod] at hreact
    rw [text, respond, hreact]
    rfl

end Observer

/-! ### What is written about a frame -/

theorem Observer.Steady.exists_stamp {summary : Summary} (h : (Observer.summary summary).Steady)
    (hpasses : summary.logger.Passes .info) (now : Float) (core : Core) :
    ∃ stamp, summary.logger.stamp (.real now) = .ok stamp := by
  -- A program that is loaded is written about whatever the interval is.
  have hfine : ((Observer.summary summary).respond ⟨.real now, core, .loaded 0⟩).failure = none :=
    h.fine [] now core (.loaded 0)
  simp only [respond, Summary.react, Moment.notice, Summary.onLoad, Logger.write,
    if_pos hpasses] at hfine
  cases hstamp : summary.logger.stamp (.real now) with
  | error failure => simp [hstamp, Except.map] at hfine
  | ok stamp => exact ⟨stamp, rfl⟩

namespace Machine

variable {machine : Machine} {place : Nat} {summary : Summary}
  (hplace : machine.observers[place]? = some (.summary summary))

include hplace

/-- The observer has nothing to say about what a frame carried out. -/
theorem linesOf_frame (kind : Event → Bool) (keypad : UInt16) (text : String)
    (answers : List Utterance) :
    let stats := (machine.state.runFrame keypad).2
    let executed := (machine.ran keypad).moment (.executed stats.opCounts stats.elapsed.toInt)
    linesOf place kind (machine.chorus executed ++ ⟨.machine, text⟩ :: answers) =
      linesOf place kind answers := by
  intro stats executed
  have hsilent : linesOf place kind (machine.chorus executed) = [] :=
    machine.linesOf_chorus_of_silent hplace (Observer.text_executed rfl)
  rw [Utterance.linesOf_append, hsilent, List.nil_append, Utterance.linesOf_cons_machine]

end Machine

namespace Exchange

/-- The time that a frame took, by its own account. -/
def elapsed (exchange : Exchange) : Int :=
  match exchange.call with
  | .frame mask =>
      match mask.toKeypad with
      | .ok keypad => (exchange.before.state.runFrame keypad).2.elapsed.toInt
      | .error _ => 0
  | .load _ | .loadFile _ | .wait _ => 0

variable (exchange : Exchange) (logger : Logger)

/-- A line is about a finished frame, the one with some ordinal: it shows how many instructions
the frame carried out, what time they took, and the program counter and the buzzer as the frame
left them. -/
def SummaryLine (ordinal : Nat) (line : String) : Prop :=
  ∃ frame instructions elapsed pc, IsDecimal 6 ordinal frame ∧
    IsDecimal 4 exchange.strides.length instructions ∧ IsDecimal 6 exchange.elapsed elapsed ∧
    IsHexadecimal 3 exchange.after.state.pc.toNat pc ∧
    logger.Prints exchange.before.clock "\x1b[32m" "[    INFO]"
      ("Frame " ++ frame ++ " | " ++ instructions ++ " instructions | " ++ elapsed ++
        "us | PC=0x" ++ pc ++ " | tone=" ++ (if exchange.after.state.tone then "on" else "off"))
      line

/-- A line is about a frame that a fault stopped, after so many that came through. -/
def ErrorLine (frames : Nat) (fault : Fault) (line : String) : Prop :=
  ∃ count, IsDecimal 0 frames count ∧
    logger.Prints exchange.before.clock "\x1b[31m" "[   ERROR]"
      ("Frame " ++ count ++ " aborted: " ++ fault.message) line

variable {exchange logger}

theorem SummaryLine.ne_empty {ordinal : Nat} {line : String}
    (h : exchange.SummaryLine logger ordinal line) : line ≠ "" := by
  obtain ⟨_, _, _, _, -, -, -, -, hprints⟩ := h
  exact hprints.ne_empty

theorem ErrorLine.ne_empty {frames : Nat} {fault : Fault} {line : String}
    (h : exchange.ErrorLine logger frames fault line) : line ≠ "" := by
  obtain ⟨_, -, hprints⟩ := h
  exact hprints.ne_empty

end Exchange

namespace Observer

variable {summary : Summary} {exchange : Exchange} {moment : Moment}
  (hclock : moment.clock = exchange.before.clock) {stamp : String}
  (hstamp : summary.logger.stamp exchange.before.clock = .ok stamp)
  (hpasses : summary.logger.Passes .info)

include hclock hstamp hpasses

theorem summaryLine_text {interval : Int} (hinterval : summary.interval = .integer interval)
    (hne : interval ≠ 0) (hdvd : interval ∣ (moment.core.frames : Int))
    (hevent : moment.event = .finished exchange.strides.length exchange.elapsed)
    (hstate : moment.core.state = exchange.after.state) :
    exchange.SummaryLine summary.logger moment.core.frames
      ((Observer.summary summary).text moment) := by
  rw [text_finished hinterval hne hevent, if_pos hdvd, hclock, hstate]
  exact ⟨_, _, _, _, Text.isDecimal_decimal _ _, Text.isDecimal_decimal _ _,
    Text.isDecimal_decimal _ _, Text.isHexadecimal_hexadecimal _ _,
    Logger.prints_info hstamp hpasses _⟩

theorem errorLine_text {fault : Fault} (hevent : moment.event = .failed fault) :
    exchange.ErrorLine summary.logger moment.core.frames fault
      ((Observer.summary summary).text moment) := by
  rw [text_failed hevent, hclock, ← Text.decimal_zero]
  exact ⟨_, Text.isDecimal_decimal _ _, Logger.prints_error hstamp hpasses _⟩

end Observer

/-! ### What is written about a call -/

namespace Exchange

variable (exchange : Exchange) (summary : Summary)

/-- The ordinals of the frames of a call that a summary is due for: that of a frame that came
through, if the interval divides it. -/
def due (interval : Int) : List Nat :=
  if exchange.completed ∧ interval ∣ (exchange.before.frames + 1 : Nat) then
    [exchange.before.frames + 1]
  else []

/-- What was written during a call, and what of it is by an observer that writes summaries. -/
structure Summarized (place : Nat) (interval : Int) (utterances : List Utterance) : Prop where
  spoken : exchange.before.Spoken utterances exchange.after
  finished : List.Forall₂ (exchange.SummaryLine summary.logger) (exchange.due interval)
    (linesOf place Event.isFinished utterances)
  /-- The line about a fault is the only one of the frame. -/
  failed : match exchange.fault? with
    | none => linesOf place Event.isFailed utterances = []
    | some fault => ∃ line, linesOf place (fun _ => true) utterances = [line] ∧
        exchange.ErrorLine summary.logger exchange.before.frames fault line

namespace Summarized

variable {exchange summary} {place : Nat} {interval : Int}

theorem due_of_not_completed (h : exchange.completed = false) : exchange.due interval = [] := by
  rw [due, h]
  exact if_neg fun hboth => Bool.false_ne_true hboth.1

theorem of_aside (h : exchange.before.Aside exchange.after)
    (hcompleted : exchange.completed = false) (hfault : exchange.fault? = none) :
    ∃ utterances, exchange.Summarized summary place interval utterances := by
  obtain ⟨utterances, hspoken, hlines⟩ := h
  refine ⟨utterances, hspoken, ?_, ?_⟩
  · rw [(hlines place).1, due_of_not_completed hcompleted]
    exact .nil
  · rw [hfault]
    exact (hlines place).2

variable {mask : Mask} (hcall : exchange.call = .frame mask) {keypad : UInt16}
  (hplace : exchange.before.observers[place]? = some (.summary summary)) {stamp : String}
  (hstamp : summary.logger.stamp exchange.before.clock = .ok stamp)
  (hpasses : summary.logger.Passes .info)

include hcall hplace hstamp hpasses

theorem of_finished (hinterval : summary.interval = .integer interval) (hne : interval ≠ 0)
    (hafter : exchange.after =
      (exchange.before.reported keypad).finished exchange.strides.length exchange.elapsed)
    (hfailure : exchange.failure = none) :
    ∃ utterances, exchange.Summarized summary place interval utterances := by
  have hcompleted : exchange.completed = true := by
    rw [completed, hcall, hfailure]
    rfl
  have hfault : exchange.fault? = none := by rw [fault?, hcall, hfailure]
  have hreported := Machine.Spoken.reported exchange.before keypad
  obtain ⟨text, hfinished⟩ := Machine.Spoken.finished (exchange.before.reported keypad)
    exchange.strides.length exchange.elapsed
  rw [← hafter] at hfinished
  have hlast := hreported.summary_getElem? hplace
  set moment := exchange.after.moment (.finished exchange.strides.length exchange.elapsed)
    with hmoment
  have hclock : moment.clock = exchange.before.clock := by
    rw [hmoment, hafter]
    exact Machine.clock_reported exchange.before keypad
  have hframes : moment.core.frames = exchange.before.frames + 1 := by
    rw [hmoment, hafter]
    exact congrArg (· + 1) (Machine.frames_reported exchange.before keypad)
  refine ⟨_, hreported.trans hfinished, ?_, ?_⟩
  · rw [Machine.linesOf_frame hplace, Machine.linesOf_chorus _ rfl hlast, due]
    by_cases hdvd : interval ∣ (exchange.before.frames + 1 : Nat)
    · rw [← hframes] at hdvd
      have hline := Observer.summaryLine_text hclock hstamp hpasses hinterval hne hdvd rfl rfl
      rw [if_neg hline.ne_empty, ← hframes, if_pos ⟨hcompleted, hdvd⟩]
      exact .cons hline .nil
    · have hsilent : (Observer.summary summary).text moment = "" := by
        rw [Observer.text_finished hinterval hne rfl, hframes, if_neg hdvd]
      rw [if_pos hsilent, if_neg fun hboth => hdvd hboth.2]
      exact .nil
  · simp only [hfault]
    rw [Machine.linesOf_frame hplace, Machine.linesOf_chorus_of_not _ rfl]

theorem of_aborted {fault : Fault}
    (hafter : exchange.after =
      (exchange.before.reported keypad).aborted exchange.strides.length fault)
    (hfailure : exchange.failure = some (.fault fault)) :
    ∃ utterances, exchange.Summarized summary place interval utterances := by
  have hcompleted : exchange.completed = false := by
    rw [completed, hcall, hfailure]
    rfl
  have hfault : exchange.fault? = some fault := by rw [fault?, hcall, hfailure]
  have hreported := Machine.Spoken.reported exchange.before keypad
  obtain ⟨text, haborted⟩ := Machine.Spoken.aborted (exchange.before.reported keypad)
    exchange.strides.length fault
  rw [← hafter] at haborted
  refine ⟨_, hreported.trans haborted, ?_, ?_⟩
  · rw [Machine.linesOf_frame hplace, Machine.linesOf_chorus_of_not _ rfl,
      due_of_not_completed hcompleted]
    exact .nil
  · have hlast := hreported.summary_getElem? hplace
    set moment := (exchange.before.reported keypad).moment (.failed fault) with hmoment
    have hclock : moment.clock = exchange.before.clock :=
      Machine.clock_reported exchange.before keypad
    have hframes : moment.core.frames = exchange.before.frames :=
      Machine.frames_reported exchange.before keypad
    have hevent : moment.event = .failed fault := rfl
    have hline := Observer.errorLine_text hclock hstamp hpasses hevent
    rw [hframes] at hline
    simp only [hfault]
    rw [Machine.linesOf_frame hplace, Machine.linesOf_chorus _ rfl hlast, if_neg hline.ne_empty]
    exact ⟨_, rfl, hline⟩

end Summarized

end Exchange

namespace Machine.Steady

variable {machine : Machine} (h : machine.Steady) {place : Nat} {summary : Summary}
  {interval : Int}

include h

/-- The lines about finished frames, call after call, are those of the frames that came
through, counted on from what the machine has counted. -/
theorem linesOf_flatten {calls : List Call} {said : List (List Utterance)}
    (hsaid : List.Forall₂ (fun exchange utterances =>
      exchange.Summarized summary place interval utterances) (machine.exchanges calls) said) :
    List.Forall₂ (fun entry line => entry.1.SummaryLine summary.logger entry.2 line)
      ((((machine.exchanges calls).filter Exchange.completed).zipIdx (machine.frames + 1)).filter
        fun entry => interval ∣ (entry.2 : Int))
      (linesOf place Event.isFinished said.flatten) := by
  induction calls generalizing machine said with
  | nil =>
      cases hsaid
      exact .nil
  | cons call calls ih =>
      cases hsaid with
      | cons hfirst hrest =>
          have hlater := ih (h.answer call) hrest
          have hfinished := hfirst.finished
          rw [h.frames_answer call] at hlater
          rw [List.flatten_cons, Utterance.linesOf_append, exchanges_cons]
          rw [Exchange.due] at hfinished
          cases hcompleted : Exchange.completed ⟨machine, call⟩ with
          | false =>
              rw [hcompleted, if_neg fun hboth => Bool.false_ne_true hboth.1] at hfinished
              rw [List.forall₂_nil_left_iff.mp hfinished, List.nil_append]
              simpa [hcompleted] using hlater
          | true =>
              rw [hcompleted, if_pos rfl] at hlater
              rw [List.filter_cons_of_pos hcompleted, List.zipIdx_cons, List.filter_cons]
              by_cases hdvd : interval ∣ ((machine.frames + 1 : Nat) : Int)
              · rw [if_pos ⟨hcompleted, hdvd⟩] at hfinished
                obtain ⟨line, rest, hline, hnil, hlines⟩ := List.forall₂_cons_left_iff.mp hfinished
                rw [hlines, List.forall₂_nil_left_iff.mp hnil, if_pos (decide_eq_true hdvd)]
                exact .cons hline hlater
              · rw [if_neg fun hboth => hdvd hboth.2] at hfinished
                rw [List.forall₂_nil_left_iff.mp hfinished, if_neg (mt of_decide_eq_true hdvd)]
                exact hlater

variable (hplace : machine.observers[place]? = some (.summary summary))
  (hinterval : summary.interval = .integer interval) (hne : interval ≠ 0)
  (hpasses : summary.logger.Passes .info)

include hplace hinterval hne hpasses

theorem summarized_frame (mask : Mask) :
    ∃ utterances,
      Exchange.Summarized ⟨machine, .frame mask⟩ summary place interval utterances := by
  cases hmask : mask.toKeypad with
  | error failure =>
      have hanswer := machine.answer_of_error hmask
      apply Exchange.Summarized.of_aside
      · rw [Exchange.after, hanswer]
        exact .refl machine
      · simp [Exchange.completed, Exchange.failure, hanswer]
      · simp only [Exchange.fault?, Exchange.failure, hanswer]
        cases failure with
        | fault fault => exact absurd hmask (Mask.toKeypad_ne_fault mask fault)
        | _ => rfl
  | ok keypad =>
      obtain ⟨now, hnow⟩ := h.clock
      have hobserver := h.observers _ (List.mem_of_getElem? hplace)
      obtain ⟨stamp, hstamp⟩ := hobserver.exists_stamp hpasses now machine.toCore
      rw [← hnow] at hstamp
      set exchange : Exchange := ⟨machine, .frame mask⟩
      have hstrides : exchange.strides = (machine.state.beginFrame keypad).walk.strides := by
        simp only [exchange, Exchange.strides, hmask]
      have helapsed : exchange.elapsed = (machine.state.runFrame keypad).2.elapsed.toInt := by
        simp only [exchange, Exchange.elapsed, hmask]
      have hanswer := machine.answer_of_mask hmask
      rw [h.runMask_eq, ← hstrides, ← helapsed] at hanswer
      cases hfault : (machine.state.beginFrame keypad).walk.fault with
      | none =>
          rw [hfault] at hanswer
          exact Exchange.Summarized.of_finished rfl hplace hstamp hpasses hinterval hne
            (congrArg Prod.fst hanswer) (congrArg Prod.snd hanswer)
      | some fault =>
          rw [hfault] at hanswer
          exact Exchange.Summarized.of_aborted rfl hplace hstamp hpasses
            (congrArg Prod.fst hanswer) (congrArg Prod.snd hanswer)

theorem summarized (call : Call) :
    ∃ utterances, Exchange.Summarized ⟨machine, call⟩ summary place interval utterances := by
  cases call with
  | load program => exact Exchange.Summarized.of_aside (.load h program) rfl rfl
  | loadFile file => exact Exchange.Summarized.of_aside (.loadFile h file) rfl rfl
  | frame mask => exact h.summarized_frame hplace hinterval hne hpasses mask
  | wait now => exact Exchange.Summarized.of_aside (.of_silent (.waited machine now)) rfl rfl

theorem exists_said (calls : List Call) :
    ∃ said : List (List Utterance),
      List.Forall₂ (fun exchange utterances =>
        exchange.Summarized summary place interval utterances) (machine.exchanges calls) said ∧
      machine.Spoken said.flatten (machine.run calls) := by
  induction calls generalizing machine with
  | nil => exact ⟨[], .nil, .counted machine _ _ _⟩
  | cons call calls ih =>
      obtain ⟨utterances, hfirst⟩ := h.summarized hplace hinterval hne hpasses call
      obtain ⟨said, hrest, hlater⟩ :=
        ih (h.answer call) (hfirst.spoken.summary_getElem? hplace)
      exact ⟨utterances :: said, .cons hfirst hrest, hfirst.spoken.trans hlater⟩

end Machine.Steady

/-- Summaries neither skip nor repeat a frame, whatever the interval is as long as it is not
zero, and however loads, refusals and frames that fail are mixed, if nothing that is told or
logged to fails.

All that the calls write is said in turn (`said` has what was said during each call), by the
machine or by an observer about a notice that was delivered to it.  Of it, the lines of the
observer about finished frames are those of the frames that came through whose ordinal the
interval divides, in order and once each, and each line shows that frame's own instructions,
time, program counter and buzzer, so that they can be read from it.  A frame that a fault stops
has exactly one line by the observer, about the fault and with the number of frames that came
through before; other calls have none about a fault. -/
theorem summaries_exact {machine : Machine} (h : machine.Steady) {place : Nat} {summary : Summary}
    (hplace : machine.observers[place]? = some (.summary summary)) {interval : Int}
    (hinterval : summary.interval = .integer interval) (hne : interval ≠ 0)
    (hpasses : summary.logger.Passes .info) (calls : List Call) :
    let exchanges := machine.exchanges calls
    ∃ said : List (List Utterance),
      List.Forall₂ (fun exchange utterances =>
        exchange.before.Spoken utterances exchange.after) exchanges said ∧
      (machine.run calls).transcript =
        machine.transcript ++ String.join (said.flatten.map Utterance.text) ∧
      (machine.run calls).deliveries =
        machine.deliveries ++ said.flatten.filterMap Utterance.delivery? ∧
      List.Forall₂ (fun entry line => entry.1.SummaryLine summary.logger entry.2 line)
        (((exchanges.filter Exchange.completed).zipIdx (machine.frames + 1)).filter
          fun entry => interval ∣ (entry.2 : Int))
        (linesOf place Event.isFinished said.flatten) ∧
      List.Forall₂ (fun exchange utterances =>
        match exchange.fault? with
        | none => linesOf place Event.isFailed utterances = []
        | some fault => ∃ line, linesOf place (fun _ => true) utterances = [line] ∧
            exchange.ErrorLine summary.logger exchange.before.frames fault line) exchanges said ∧
      ∀ early exchange late, exchanges = early ++ exchange :: late →
        exchange.before.frames = machine.frames + early.countP Exchange.completed := by
  intro exchanges
  obtain ⟨said, hsaid, hspoken⟩ := h.exists_said hplace hinterval hne hpasses calls
  refine ⟨said, ?_, hspoken.transcript_eq, hspoken.deliveries_eq,
    h.linesOf_flatten hsaid, ?_, ?_⟩
  · exact hsaid.imp fun _ _ hsummarized => hsummarized.spoken
  · exact hsaid.imp fun _ _ hsummarized => hsummarized.failed
  · intro early exchange late hexchanges
    obtain ⟨first, call, rest, -, rfl, rfl⟩ := Machine.exchanges_eq_append hexchanges
    exact (h.counters_run first).1

/-- Every second frame is written about, counted backwards: here the second, after which a
fault stops the next frame. -/
theorem summaries_exact_backwards :
    let logger : Logger := ⟨.text "frames", .info, .truth false, false, .real 0⟩
    let summary : Summary := ⟨.integer (-2), logger⟩
    let start :=
      Machine.fresh (.ofSeed 0) logger [.metrics .empty, .summary summary] (.real 0)
    (start.Steady ∧ start.observers[1]? = some (.summary summary) ∧ logger.Passes .info) ∧
      ∃ early last,
        (start.run spriteCalls).transcript =
          String.join ((early ++ last).map Utterance.text) ∧
        linesOf 1 Event.isFinished (early ++ last) =
          ["[    INFO][frames] Frame      2 |    1 instructions |  22734us | PC=0x206 | tone=off\n"] ∧
        linesOf 1 Event.isFailed early = [] ∧
        linesOf 1 (fun _ => true) last =
          ["[   ERROR][frames] Frame 2 aborted: Invalid opcode FFFF\n"] := by
  intro logger summary start
  have hlogger : logger.Steady := Or.inl rfl
  have hobservers : ∀ observer ∈ [Observer.metrics .empty, .summary summary], observer.Steady := by
    rw [List.forall_mem_cons, List.forall_mem_singleton]
    exact ⟨Observer.steady_metrics _, Observer.steady_summary rfl (by decide) hlogger⟩
  have hsteady : start.Steady := Machine.steady_fresh hlogger hobservers _ 0
  have hplace : start.observers[1]? = some (.summary summary) := rfl
  have hpasses : logger.Passes .info := by decide
  obtain ⟨said, -, htranscript, -, hfinished, hfailed, -⟩ :=
    summaries_exact hsteady hplace rfl (by decide) hpasses spriteCalls
  obtain ⟨opening, due, -, hdrawing, hcompleted⟩ :=
    Machine.completed_spriteCalls hsteady rfl rfl rfl
  obtain ⟨first, second, third, fourth, fifth, hexchanges, hfirst, hsecond, -, hfifth, -, hlong,
    -⟩ := Machine.exchanges_spriteCalls hsteady rfl rfl rfl
  rw [hexchanges] at hfailed
  rcases hfailed with _ | ⟨hloaded, _ | ⟨hdrawn, _ | ⟨hrefused, _ | ⟨hagain, _ | ⟨hlonger,
    _ | ⟨hwaited, _ | ⟨hlast, _ | _⟩⟩⟩⟩⟩⟩⟩
  rename_i loaded drawn refused again longer waited last
  obtain ⟨-, ⟨-, -, -, hfine, -⟩, ⟨-, htime, hone, hquiet, hpc, htone⟩, -, -, -, hfault, -⟩ :=
    spriteStats_eq
  obtain ⟨-, hfirstFault, -⟩ := hfirst.frame (by decide)
  obtain ⟨-, hsecondFault, -⟩ := hsecond.frame (by decide)
  obtain ⟨-, hlastFault, -⟩ := hfifth.frame (by decide)
  obtain ⟨hstate, -, -, hcount, -⟩ := hdrawing.frame (by decide)
  rw [hfine] at hfirstFault
  rw [hquiet] at hsecondFault
  rw [hfault] at hlastFault
  have helapsed : Exchange.elapsed ⟨due, .frame (.integer 0)⟩ = 22734 := by
    calc Exchange.elapsed ⟨due, .frame (.integer 0)⟩
        = (due.state.runFrame 0).2.elapsed.toInt := rfl
      _ = 22734 := by rw [hdrawing.runFrame_state (by decide), htime]
  have hdue : (((start.exchanges spriteCalls).filter Exchange.completed).zipIdx
      (start.frames + 1)).filter (fun entry => -2 ∣ (entry.2 : Int)) =
        [(⟨due, .frame (.integer 0)⟩, 2)] := by
    have hzero : start.frames = 0 := rfl
    have hone : decide ((-2 : Int) ∣ ((0 + 1 : Nat) : Int)) = false := by decide
    have htwo : decide ((-2 : Int) ∣ ((0 + 1 + 1 : Nat) : Int)) = true := by decide
    rw [hcompleted, hzero, List.zipIdx_cons, List.zipIdx_cons, List.zipIdx_nil]
    simp only [List.filter_cons, hone, htwo]
    rfl
  rw [hdue] at hfinished
  obtain ⟨line, rest, hline, hnil, hlines⟩ := List.forall₂_cons_left_iff.mp hfinished
  obtain ⟨frame, instructions, elapsed, pc, ⟨rfl, -, -⟩, ⟨rfl, -, -⟩, ⟨rfl, -, -⟩, ⟨rfl, -, -⟩,
    stamp, shown, hstamp, rfl, rfl⟩ := hline
  rw [List.forall₂_nil_left_iff.mp hnil] at hlines
  rw [hlastFault] at hlast
  obtain ⟨message, hmessage, count, ⟨rfl, -, -⟩, sign, tag, hsign, rfl, rfl⟩ := hlast
  obtain rfl : stamp = "" := hstamp
  obtain rfl : sign = "" := hsign
  rw [hcount, hone, helapsed, hstate, hpc, htone] at hlines
  rw [hfifth.frames] at hmessage
  rw [hsecondFault] at hagain
  rw [hfirstFault] at hdrawn
  have hflatten : [loaded, drawn, refused, again, longer, waited, last].flatten =
      [loaded, drawn, refused, again, longer, waited].flatten ++ last := by
    simp
  have hstart : start.transcript = "" := rfl
  have hname : summary.logger.name.print = "frames" := rfl
  have hcolored : summary.logger.colored.isTrue = false := rfl
  rw [hflatten, hstart, String.empty_append] at htranscript
  rw [hflatten] at hlines
  refine ⟨⟨hsteady, hplace, hpasses⟩, [loaded, drawn, refused, again, longer, waited].flatten,
    last, htranscript, ?_, ?_, ?_⟩
  · rw [hlines, hcolored, hname]
    dsimp only
    decide +kernel
  · have hnone : linesOf 1 Event.isFailed loaded = [] ∧ linesOf 1 Event.isFailed drawn = [] ∧
        linesOf 1 Event.isFailed refused = [] ∧ linesOf 1 Event.isFailed again = [] ∧
        linesOf 1 Event.isFailed longer = [] ∧ linesOf 1 Event.isFailed waited = [] :=
      ⟨hloaded, hdrawn, hrefused, hagain, hlonger, hwaited⟩
    obtain ⟨hloaded, hdrawn, hrefused, hagain, hlonger, hwaited⟩ := hnone
    simp only [List.flatten_cons, List.flatten_nil, Utterance.linesOf_append, hloaded, hdrawn,
      hrefused, hagain, hlonger, hwaited, List.nil_append]
    rfl
  · rw [hmessage, hcolored, hname]
    decide +kernel

end Chip8
