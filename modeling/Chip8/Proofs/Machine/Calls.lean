import Chip8.Proofs.Machine.Steady
import Chip8.Proofs.Session

/-!
# Calls of a host

A host calls a machine over and over: it loads programs, runs frames, and lets time pass
in between.  Calls that are refused and frames that a fault stops are calls like any
other.  An `Exchange` is one of several calls together with the machine at the time.

Everything that a call does to a steady machine follows from what it does to the state,
the two counters, and the sums of each observer that keeps some (`sumsAt`).  Loading and
waiting leave all of them alone but memory (`Reloaded`); a frame that is not refused has
one equation for each.  Whatever every call preserves holds after all calls of a host
(`Machine.Steady.run_induction`).

At the end stand some calls that have a bit of everything (`spriteCalls`), for later modules
to show what their results come to.
-/

namespace Chip8

/-- A call of a host. -/
inductive Call where
  | load (program : Program)
  | loadFile (file : ProgramFile)
  | frame (mask : Mask)
  /-- The clock moves to so many seconds. -/
  | wait (now : Float)

/-- A mask is refused for what it is, and not because of the machine. -/
theorem Mask.toKeypad_ne_fault (mask : Mask) (fault : Fault) :
    mask.toKeypad ≠ .error (.fault fault) := by
  unfold Mask.toKeypad
  split
  · simp
  · split <;> simp

namespace Machine

/-- Do what a host calls for. -/
def answer (machine : Machine) : Call → Outcome
  | .load program => machine.load program
  | .loadFile file => machine.loadFile file
  | .frame mask => machine.runFrame mask
  | .wait now => ({ machine with clock := .real now }, none)

/-- The machine after several calls, whatever they come to. -/
def run (machine : Machine) (calls : List Call) : Machine :=
  calls.foldl (fun machine call => (machine.answer call).1) machine

end Machine

/-- What a frame reports: first what was carried out, then how it ended. -/
def State.reports (state : State) (keypad : UInt16) : List Event :=
  let walk := (state.beginFrame keypad).walk
  let stats := (state.runFrame keypad).2
  [.executed stats.opCounts stats.elapsed.toInt,
    match walk.fault with
    | some fault => .failed fault
    | none => .finished walk.strides.length stats.elapsed.toInt]

/-- The statistics of a frame have all that it reports. -/
theorem State.reports_of_runFrame {state next : State} {keypad : UInt16} {stats : FrameStats}
    (h : state.runFrame keypad = (next, stats)) :
    state.reports keypad =
      [.executed stats.opCounts stats.elapsed.toInt,
        match stats.fault? next with
        | some fault => .failed fault
        | none => .finished stats.instructions.toInt stats.elapsed.toInt] := by
  rw [reports, ← fault_runFrame, ← toInt_instructions_runFrame, h]

/-- One of several calls, and the machine at the time. -/
structure Exchange where
  before : Machine
  call : Call

namespace Exchange

/-- The machine after the call. -/
def after (exchange : Exchange) : Machine := (exchange.before.answer exchange.call).1

/-- Why the call failed, if it did. -/
def failure (exchange : Exchange) : Option Failure := (exchange.before.answer exchange.call).2

/-- Whether the call was for a frame that came through. -/
def completed (exchange : Exchange) : Bool :=
  match exchange.call with
  | .frame _ => exchange.failure.isNone
  | .load _ | .loadFile _ | .wait _ => false

/-- The fault of the machine that stopped a frame, if one did. -/
def fault? (exchange : Exchange) : Option Fault :=
  match exchange.call, exchange.failure with
  | .frame _, some (.fault fault) => some fault
  | _, _ => none

/-- Whether the call was for a frame that failed with a fault of the machine. -/
def faulted (exchange : Exchange) : Bool := exchange.fault?.isSome

/-- The instructions that were carried out to answer a call. -/
def strides (exchange : Exchange) : List Stride :=
  match exchange.call with
  | .frame mask =>
      match mask.toKeypad with
      | .ok keypad => (exchange.before.state.beginFrame keypad).walk.strides
      | .error _ => []
  | .load _ | .loadFile _ | .wait _ => []

/-- What a call reports: what its frame does, if it is for one that is run. -/
def reports (exchange : Exchange) : List Event :=
  match exchange.call with
  | .frame mask =>
      match mask.toKeypad with
      | .ok keypad => exchange.before.state.reports keypad
      | .error _ => []
  | .load _ | .loadFile _ | .wait _ => []

end Exchange

namespace Machine

/-- The calls of a host, one after another. -/
def exchanges (machine : Machine) : List Call → List Exchange
  | [] => []
  | call :: calls => ⟨machine, call⟩ :: (machine.answer call).1.exchanges calls

@[simp] theorem run_nil (machine : Machine) : machine.run [] = machine := rfl

@[simp] theorem run_cons (machine : Machine) (call : Call) (calls : List Call) :
    machine.run (call :: calls) = (machine.answer call).1.run calls := rfl

@[simp] theorem exchanges_nil (machine : Machine) : machine.exchanges [] = [] := rfl

@[simp] theorem exchanges_cons (machine : Machine) (call : Call) (calls : List Call) :
    machine.exchanges (call :: calls) =
      ⟨machine, call⟩ :: (machine.answer call).1.exchanges calls := rfl

theorem run_concat (machine : Machine) (calls : List Call) (call : Call) :
    machine.run (calls ++ [call]) = ((machine.run calls).answer call).1 :=
  List.foldl_append

theorem exchanges_concat (machine : Machine) (calls : List Call) (call : Call) :
    machine.exchanges (calls ++ [call]) =
      machine.exchanges calls ++ [⟨machine.run calls, call⟩] := by
  induction calls generalizing machine with
  | nil => rfl
  | cons first calls ih =>
      rw [List.cons_append, exchanges_cons, exchanges_cons, run_cons, ih, List.cons_append]

/-- A call finds the machine as the calls before it leave it. -/
theorem exchanges_eq_append {machine : Machine} {calls : List Call} {early late : List Exchange}
    {exchange : Exchange} (h : machine.exchanges calls = early ++ exchange :: late) :
    ∃ first call rest, calls = first ++ call :: rest ∧ early = machine.exchanges first ∧
      exchange = ⟨machine.run first, call⟩ := by
  induction calls generalizing machine early with
  | nil => simp at h
  | cons call calls ih =>
      cases early with
      | nil =>
          rw [exchanges_cons, List.nil_append, List.cons.injEq] at h
          exact ⟨[], call, calls, rfl, rfl, h.1.symm⟩
      | cons before early =>
          rw [exchanges_cons, List.cons_append, List.cons.injEq] at h
          obtain ⟨first, found, rest, rfl, rfl, rfl⟩ := ih h.2
          refine ⟨call :: first, found, rest, rfl, ?_, rfl⟩
          rw [exchanges_cons, h.1]

/-! ### Sums -/

/-- What the observer in some position has added up, if it does. -/
def sumsAt (machine : Machine) (place : Nat) : Option Metrics :=
  match machine.observers[place]? with
  | some (.metrics sums) => some sums
  | _ => none

variable (machine : Machine) (place : Nat)

theorem sumsAt_eq_some_iff {sums : Metrics} :
    machine.sumsAt place = some sums ↔ machine.observers[place]? = some (.metrics sums) := by
  rw [sumsAt]
  rcases machine.observers[place]? with _ | observer
  · simp
  · cases observer <;> simp

@[simp] theorem sumsAt_logged (level : Console.Level) (message : String) :
    (machine.logged level message).sumsAt place = machine.sumsAt place := rfl

@[simp] theorem sumsAt_told (event : Event) :
    (machine.told event).sumsAt place = (machine.sumsAt place).map (·.record event) := by
  simp only [sumsAt, observers_told, List.getElem?_map]
  rcases machine.observers[place]? with _ | observer
  · rfl
  · cases observer <;> rfl

theorem sumsAt_reported (keypad : UInt16) :
    (machine.reported keypad).sumsAt place =
      (machine.sumsAt place).map
        (·.record (.executed (machine.state.runFrame keypad).2.opCounts
          (machine.state.runFrame keypad).2.elapsed.toInt)) := by
  rw [reported, sumsAt_told, sumsAt, sumsAt]
  rfl

theorem sumsAt_finished (instructions elapsed : Int) :
    (machine.finished instructions elapsed).sumsAt place =
      (machine.sumsAt place).map (·.record (.finished instructions elapsed)) := by
  rw [finished, sumsAt_told, sumsAt_logged]
  rfl

theorem sumsAt_aborted (instructions : Int) (fault : Fault) :
    (machine.aborted instructions fault).sumsAt place =
      (machine.sumsAt place).map (·.record (.failed fault)) := by
  rw [aborted, sumsAt_told, sumsAt_logged]

/-! ### Loading and waiting -/

/-- Memory may have changed, and nothing that a frame or a sum depends on besides. -/
structure Reloaded (before after : Machine) : Prop where
  state : after.state = { before.state with memory := after.state.memory }
  frames : after.frames = before.frames
  instructions : after.instructions = before.instructions
  sums : ∀ place, after.sumsAt place = before.sumsAt place
  steady : before.Steady → after.Steady

namespace Reloaded

variable {machine}

theorem refl (machine : Machine) : Reloaded machine machine :=
  ⟨rfl, rfl, rfl, fun _ => rfl, id⟩

theorem trans {first second third : Machine} (h : Reloaded first second)
    (hnext : Reloaded second third) : Reloaded first third := by
  refine ⟨?_, hnext.frames.trans h.frames, hnext.instructions.trans h.instructions,
    fun place => (hnext.sums place).trans (h.sums place), hnext.steady ∘ h.steady⟩
  rw [hnext.state, h.state]

theorem logged (machine : Machine) (level : Console.Level) (message : String) :
    Reloaded machine (machine.logged level message) :=
  ⟨rfl, rfl, rfl, fun _ => rfl, fun h => h.logged level message⟩

theorem refused (machine : Machine) (failure : Failure) :
    Reloaded machine (machine.refused failure).1 := by
  cases failure with
  | fault fault => exact logged machine _ _
  | _ => exact refl machine

/-- Sums do not count programs. -/
theorem announced (machine : Machine) (logged told : Nat) :
    Reloaded machine (machine.announced logged told) := by
  refine ⟨rfl, rfl, rfl, fun place => ?_, fun h => h.announced logged told⟩
  rw [Machine.announced, measured, sumsAt_told, sumsAt_logged]
  exact Option.map_id'

theorem installed {machine : Machine} {state : State}
    (h : state = { machine.state with memory := state.memory }) :
    Reloaded machine { machine with state } :=
  ⟨h, rfl, rfl, fun _ => rfl, fun h => h.with_counters _ _ _⟩

theorem load (h : machine.Steady) (program : Program) :
    Reloaded machine (machine.load program).1 := by
  have hloaded := h.loaded program
  generalize machine.load program = outcome at hloaded ⊢
  cases hloaded with
  | refused => exact refused machine _
  | announced hload => exact (installed (State.eq_of_loadProgram hload)).trans (announced _ _ _)
  | unlogged hload => exact installed (State.eq_of_loadProgram hload)
  | untold hload => exact (installed (State.eq_of_loadProgram hload)).trans (logged _ _ _)

theorem loadFile (h : machine.Steady) (file : ProgramFile) :
    Reloaded machine (machine.loadFile file).1 := by
  rw [h.loadFile_eq]
  cases file.bytes with
  | error failure => exact refl machine
  | ok bytes =>
      cases file.name with
      | error failure => exact refl machine
      | ok name => exact (logged machine _ _).trans (load (h.logged _ _) file.program)

theorem wait (machine : Machine) (now : Float) :
    Reloaded machine { machine with clock := .real now } :=
  ⟨rfl, rfl, rfl, fun _ => rfl, fun h => ⟨⟨now, rfl⟩, h.logger, h.observers⟩⟩

end Reloaded

/-! ### Frames -/

theorem runFrame_of_mask {mask : Mask} {keypad : UInt16} (h : mask.toKeypad = .ok keypad) :
    machine.runFrame mask = machine.runMask keypad := by
  rw [runFrame, h]

theorem runFrame_of_error {mask : Mask} {failure : Failure}
    (h : mask.toKeypad = .error failure) : machine.runFrame mask = (machine, some failure) := by
  rw [runFrame, h]
  rfl

theorem answer_of_mask {mask : Mask} {keypad : UInt16} (h : mask.toKeypad = .ok keypad) :
    machine.answer (.frame mask) = machine.runMask keypad :=
  machine.runFrame_of_mask h

theorem answer_of_error {mask : Mask} {failure : Failure}
    (h : mask.toKeypad = .error failure) :
    machine.answer (.frame mask) = (machine, some failure) :=
  machine.runFrame_of_error h

namespace Steady

variable {machine} (h : machine.Steady) (keypad : UInt16)

include h

omit keypad in
theorem load_of_error {program : Program} {failure : Failure}
    (hrefused : machine.state.loadProgram program = .error failure) :
    machine.load program = machine.refused failure := by
  have hloaded := h.loaded program
  generalize machine.load program = outcome at hloaded ⊢
  cases hloaded with
  | refused hsame =>
      obtain rfl := Except.error.inj (hrefused.symm.trans hsame)
      rfl
  | announced hsame => simp [hrefused] at hsame
  | unlogged hsame => simp [hrefused] at hsame
  | untold hsame => simp [hrefused] at hsame

omit keypad in
/-- Bytes that are loaded are announced with their number. -/
theorem load_ofBytes {bytes : List UInt8} {state : State}
    (hbytes : machine.state.load bytes = .ok state) :
    machine.load (.ofBytes bytes) =
      ({ machine with state }.announced bytes.length bytes.length, none) := by
  have hstate : machine.state.loadProgram (.ofBytes bytes) = .ok state :=
    State.loadProgram_eq_ok_iff.mpr ⟨bytes, rfl, hbytes⟩
  have hloaded := h.loaded (.ofBytes bytes)
  generalize machine.load (.ofBytes bytes) = outcome at hloaded ⊢
  cases hloaded with
  | refused hrefused => simp [hstate] at hrefused
  | announced hsame hlogged htold =>
      obtain rfl := Except.ok.inj (hstate.symm.trans hsame)
      obtain rfl := Except.ok.inj hlogged
      obtain rfl := Except.ok.inj htold
      rfl
  | unlogged _ hlogged => cases hlogged
  | untold _ _ htold => cases htold

theorem failure_runMask :
    (machine.runMask keypad).2 =
      (machine.state.beginFrame keypad).walk.fault.map Failure.fault := by
  rw [h.runMask_eq]
  cases (machine.state.beginFrame keypad).walk.fault <;> rfl

theorem state_runMask :
    (machine.runMask keypad).1.state = (machine.state.beginFrame keypad).walk.last := by
  rw [h.runMask_eq, ← State.fst_runFrame]
  cases (machine.state.beginFrame keypad).walk.fault <;> rfl

/-- Only a frame that no fault stops is counted. -/
theorem frames_runMask :
    (machine.runMask keypad).1.frames =
      machine.frames + if (machine.state.beginFrame keypad).walk.fault = none then 1 else 0 := by
  rw [h.runMask_eq]
  cases (machine.state.beginFrame keypad).walk.fault <;> rfl

/-- The instructions before a fault are counted like any others. -/
theorem instructions_runMask :
    (machine.runMask keypad).1.instructions =
      machine.instructions + (machine.state.beginFrame keypad).walk.strides.length := by
  rw [h.runMask_eq, ← State.toInt_instructions_runFrame]
  cases (machine.state.beginFrame keypad).walk.fault <;> rfl

/-- Sums are told everything that a frame reports. -/
theorem sumsAt_runMask (place : Nat) :
    (machine.runMask keypad).1.sumsAt place =
      (machine.sumsAt place).map ((machine.state.reports keypad).foldl Metrics.record) := by
  rw [h.runMask_eq, State.reports]
  cases (machine.state.beginFrame keypad).walk.fault with
  | none =>
      dsimp only
      rw [sumsAt_finished, sumsAt_reported, Option.map_map]
      rfl
  | some fault =>
      dsimp only
      rw [sumsAt_aborted, sumsAt_reported, Option.map_map]
      rfl

/-- A frame leaves the state that it is meant to, and its statistics say what it counts. -/
theorem answer_frame {mask : Mask} (hmask : mask.toKeypad = .ok keypad) {state : State}
    {stats : FrameStats} (hframe : machine.state.runFrame keypad = (state, stats)) :
    let exchange : Exchange := ⟨machine, .frame mask⟩
    exchange.after.state = state ∧ exchange.fault? = stats.fault? state ∧
      exchange.completed = (stats.fault? state).isNone ∧
      exchange.strides.length = stats.instructions.toInt ∧
      exchange.after.frames = machine.frames + (if stats.fault? state = none then 1 else 0) ∧
      exchange.after.instructions = machine.instructions + stats.instructions.toInt := by
  intro exchange
  have hanswer := machine.answer_of_mask hmask
  have hafter : exchange.after = (machine.runMask keypad).1 := congrArg Prod.fst hanswer
  have hfailure : exchange.failure = (machine.runMask keypad).2 := congrArg Prod.snd hanswer
  have hstate := machine.state.fst_runFrame keypad
  have hfault := machine.state.fault_runFrame keypad
  have hcount := machine.state.toInt_instructions_runFrame keypad
  rw [hframe] at hstate hfault hcount
  dsimp only at hstate hfault hcount
  have hstrides : exchange.strides = (machine.state.beginFrame keypad).walk.strides := by
    simp only [exchange, Exchange.strides, hmask]
  rw [h.failure_runMask, ← hfault] at hfailure
  refine ⟨?_, ?_, ?_, ?_, ?_, ?_⟩
  · rw [hafter, h.state_runMask, hstate]
  · simp only [exchange, Exchange.fault?] at hfailure ⊢
    rw [hfailure]
    cases stats.fault? state <;> rfl
  · simp only [exchange, Exchange.completed] at hfailure ⊢
    rw [hfailure]
    cases stats.fault? state <;> rfl
  · rw [hstrides, hcount]
  · rw [hafter, h.frames_runMask, hfault]
  · rw [hafter, h.instructions_runMask, hcount]

theorem runMask : (machine.runMask keypad).1.Steady := by
  rw [h.runMask_eq]
  cases (machine.state.beginFrame keypad).walk.fault with
  | none => exact (h.reported keypad).finished _ _
  | some fault => exact (h.reported keypad).aborted _ _

omit keypad in
/-- A call either carries nothing out and counts nothing, or it is a frame. -/
theorem answer_cases (call : Call) :
    let exchange : Exchange := ⟨machine, call⟩
    (Reloaded machine (machine.answer call).1 ∧ exchange.strides = [] ∧
        exchange.fault? = none) ∨
      ∃ keypad, machine.answer call = machine.runMask keypad ∧
        exchange.strides = (machine.state.beginFrame keypad).walk.strides ∧
        exchange.fault? = (machine.state.beginFrame keypad).walk.fault := by
  intro exchange
  cases call with
  | load program => exact Or.inl ⟨.load h program, rfl, rfl⟩
  | loadFile file => exact Or.inl ⟨.loadFile h file, rfl, rfl⟩
  | wait now => exact Or.inl ⟨.wait machine now, rfl, rfl⟩
  | frame mask =>
      cases hmask : mask.toKeypad with
      | error failure =>
          have hanswer := machine.answer_of_error hmask
          refine Or.inl ⟨?_, ?_, ?_⟩
          · rw [hanswer]
            exact .refl machine
          · simp only [exchange, Exchange.strides, hmask]
          · simp only [exchange, Exchange.fault?, Exchange.failure, hanswer]
            cases failure with
            | fault fault => exact absurd hmask (Mask.toKeypad_ne_fault mask fault)
            | _ => rfl
      | ok keypad =>
          have hanswer := machine.answer_of_mask hmask
          refine Or.inr ⟨keypad, hanswer, ?_, ?_⟩
          · simp only [exchange, Exchange.strides, hmask]
          · simp only [exchange, Exchange.fault?, Exchange.failure, hanswer, h.failure_runMask]
            cases (machine.state.beginFrame keypad).walk.fault <;> rfl

omit keypad in
/-- A steady machine stays so, whatever a host calls for. -/
theorem answer (call : Call) : (machine.answer call).1.Steady := by
  rcases h.answer_cases call with ⟨hreloaded, -⟩ | ⟨keypad, hanswer, -⟩
  · exact hreloaded.steady h
  · rw [hanswer]
    exact h.runMask keypad

omit keypad in
theorem sumsAt_answer (call : Call) (place : Nat) :
    (machine.answer call).1.sumsAt place =
      (machine.sumsAt place).map ((Exchange.mk machine call).reports.foldl Metrics.record) := by
  cases call with
  | load program => exact ((Reloaded.load h program).sums place).trans Option.map_id'.symm
  | loadFile file => exact ((Reloaded.loadFile h file).sums place).trans Option.map_id'.symm
  | wait now => exact Option.map_id'.symm
  | frame mask =>
      cases hmask : mask.toKeypad with
      | error failure =>
          simp only [machine.answer_of_error hmask, Exchange.reports, hmask]
          exact Option.map_id'.symm
      | ok keypad =>
          simp only [machine.answer_of_mask hmask, Exchange.reports, hmask, h.sumsAt_runMask]

omit keypad in
/-- Sums are what the calls of a host have reported. -/
theorem sumsAt_run (calls : List Call) (place : Nat) :
    (machine.run calls).sumsAt place =
      (machine.sumsAt place).map
        (((machine.exchanges calls).flatMap Exchange.reports).foldl Metrics.record) := by
  induction calls generalizing machine with
  | nil => exact Option.map_id'.symm
  | cons call calls ih =>
      rw [run_cons, exchanges_cons, List.flatMap_cons, ih (h.answer call), h.sumsAt_answer,
        Option.map_map]
      congr 1
      funext sums
      exact List.foldl_append.symm

omit keypad in
/-- What every call preserves holds after all calls of a host. -/
theorem run_induction {holds : List Exchange → Machine → Prop}
    (hanswer : ∀ past (machine : Machine) call, machine.Steady → holds past machine →
      holds (past ++ [⟨machine, call⟩]) (machine.answer call).1)
    (calls : List Call) {past : List Exchange} (hpast : holds past machine) :
    holds (past ++ machine.exchanges calls) (machine.run calls) := by
  induction calls generalizing machine past with
  | nil =>
      rw [exchanges_nil, run_nil, List.append_nil]
      exact hpast
  | cons call calls ih =>
      -- What is called for first becomes the last of what is past.
      have hrest := ih (h.answer call) (hanswer past machine call h hpast)
      rw [List.append_assoc, List.singleton_append] at hrest
      rw [exchanges_cons, run_cons]
      exact hrest

end Steady

end Machine

/-! ### A program that fails in its third frame -/

section Sprites

/-- A program that draws a sprite in each of two frames and comes to a word that is no
instruction in the third. -/
def spriteBytes : List UInt8 := [0x60, 0x01, 0xD0, 0x01, 0xD0, 0x01, 0xFF, 0xFF]

/-- The state of a machine that has run so many frames of the program, without keys. -/
def spriteState : Nat → State
  | 0 => { State.ofSeed 0 with
      memory := Bank.writeAll State.blankMemory [(0x200, 0x60), (0x201, 0x01), (0x202, 0xD0),
        (0x203, 0x01), (0x204, 0xD0), (0x205, 0x01), (0x206, 0xFF), (0x207, 0xFF)] }
  | frames + 1 => (Frame.runFor 2 ((spriteState frames).beginFrame 0) .empty).1

/-- The statistics of the frame after so many. -/
def spriteStats (frames : Nat) : FrameStats :=
  (Frame.runFor 2 ((spriteState frames).beginFrame 0) .empty).2

/-- What a machine shows after so many frames, and what the frame before told about itself. -/
theorem spriteStats_eq :
    (∀ frames < 3, ¬Frame.Running
      (Frame.runFor 2 ((spriteState frames).beginFrame 0) .empty).1
      (Frame.runFor 2 ((spriteState frames).beginFrame 0) .empty).2) ∧
    ((spriteStats 0).opCounts = [(.ldImm, 1), (.drw, 1)] ∧
      (spriteStats 0).elapsed.toInt = 22761 ∧ (spriteStats 0).instructions.toInt = 2 ∧
      (spriteStats 0).fault? (spriteState 1) = none ∧
      (spriteState 1).pc.toNat = 0x204 ∧ (spriteState 1).tone = false) ∧
    ((spriteStats 1).opCounts = [(.drw, 1)] ∧
      (spriteStats 1).elapsed.toInt = 22734 ∧ (spriteStats 1).instructions.toInt = 1 ∧
      (spriteStats 1).fault? (spriteState 2) = none ∧
      (spriteState 2).pc.toNat = 0x206 ∧ (spriteState 2).tone = false) ∧
    (spriteStats 2).opCounts = [] ∧
      (spriteStats 2).elapsed.toInt = 0 ∧ (spriteStats 2).instructions.toInt = 0 ∧
      (spriteStats 2).fault? (spriteState 3) = some (.invalidOp 0xFF 0xFF) ∧
      (spriteState 3).pc.toNat = 0x206 ∧ (spriteState 3).tone = false ∧
      (spriteState 3).budget.toInt = 4503 := by
  decide +kernel

theorem runFrame_spriteState {frames : Nat} (h : frames < 3) :
    (spriteState frames).runFrame 0 = (spriteState (frames + 1), spriteStats frames) := by
  rw [State.runFrame, Frame.run_eq_runFor (spriteStats_eq.1 frames h), spriteState, spriteStats]

theorem load_spriteBytes : (State.ofSeed 0).load spriteBytes = .ok (spriteState 0) := by
  rw [spriteState, spriteBytes]
  rfl

namespace Machine

/-- A steady machine has run so many frames of the program and counted so many instructions. -/
structure Sprites (machine : Machine) (frames : Nat) (instructions : Int) : Prop where
  steady : machine.Steady
  state : machine.state = spriteState frames
  frames : machine.frames = frames
  instructions : machine.instructions = instructions

namespace Sprites

variable {machine : Machine} {frames : Nat} {instructions : Int}

theorem loaded {start : Machine} (hsteady : start.Steady) (hstate : start.state = .ofSeed 0)
    (hframes : start.frames = 0) (hinstructions : start.instructions = 0) :
    start.answer (.load (.ofBytes spriteBytes)) =
        ({ start with state := spriteState 0 }.announced 8 8, none) ∧
      Sprites (start.answer (.load (.ofBytes spriteBytes))).1 0 0 := by
  have hload : start.answer (.load (.ofBytes spriteBytes)) =
      ({ start with state := spriteState 0 }.announced 8 8, none) :=
    hsteady.load_ofBytes (by rw [hstate, load_spriteBytes])
  refine ⟨hload, ?_⟩
  rw [hload]
  exact ⟨(hsteady.with_counters _ _ _).announced 8 8, rfl, hframes, hinstructions⟩

/-- What changes nothing of the state and counts nothing is no step forward. -/
theorem of_reloaded (h : Sprites machine frames instructions) {after : Machine}
    (hreloaded : Reloaded machine after) (hmemory : after.state.memory = machine.state.memory) :
    Sprites after frames instructions := by
  refine ⟨hreloaded.steady h.steady, ?_, ?_, ?_⟩
  · rw [hreloaded.state, hmemory]
    exact h.state
  · rw [hreloaded.frames, h.frames]
  · rw [hreloaded.instructions, h.instructions]

/-- What running the next frame comes to. -/
theorem runFrame_state (h : Sprites machine frames instructions) (hframes : frames < 3) :
    machine.state.runFrame 0 = (spriteState (frames + 1), spriteStats frames) := by
  rw [h.state]
  exact runFrame_spriteState hframes

theorem frame (h : Sprites machine frames instructions) (hframes : frames < 3) :
    let exchange : Exchange := ⟨machine, .frame (.integer 0)⟩
    let stats := spriteStats frames
    let fault? := stats.fault? (spriteState (frames + 1))
    exchange.after.state = spriteState (frames + 1) ∧ exchange.fault? = fault? ∧
      exchange.completed = fault?.isNone ∧
      exchange.strides.length = stats.instructions.toInt ∧
      (fault? = none →
        Sprites exchange.after (frames + 1) (instructions + stats.instructions.toInt)) := by
  intro exchange stats fault?
  have hmask : (Mask.integer 0).toKeypad = .ok 0 := rfl
  obtain ⟨hstate, hfault, hcompleted, hstrides, hcounted, hexecuted⟩ :=
    h.steady.answer_frame 0 hmask (h.runFrame_state hframes)
  refine ⟨hstate, hfault, hcompleted, hstrides, fun hfine => ⟨?_, hstate, ?_, ?_⟩⟩
  · exact h.steady.answer _
  · rw [hcounted, if_pos hfine, h.frames]
  · rw [hexecuted, h.instructions]

end Sprites

end Machine

/-- Calls for the program and its three frames, with a mask of 17 bits, a program that is too
long and a second's time in between. -/
def spriteCalls : List Call :=
  [.load (.ofBytes spriteBytes), .frame (.integer 0), .frame (.integer 0x10000),
    .frame (.integer 0), .load ((Argument.integer 4000).toProgram 0x10000), .wait 1,
    .frame (.integer 0)]

/-- The machines that the calls find. -/
theorem Machine.exchanges_spriteCalls {start : Machine} (hsteady : start.Steady)
    (hstate : start.state = .ofSeed 0) (hframes : start.frames = 0)
    (hinstructions : start.instructions = 0) :
    ∃ first second third fourth fifth : Machine,
      start.exchanges spriteCalls =
        [⟨start, .load (.ofBytes spriteBytes)⟩, ⟨first, .frame (.integer 0)⟩,
          ⟨second, .frame (.integer 0x10000)⟩, ⟨second, .frame (.integer 0)⟩,
          ⟨third, .load ((Argument.integer 4000).toProgram 0x10000)⟩, ⟨fourth, .wait 1⟩,
          ⟨fifth, .frame (.integer 0)⟩] ∧
      first.Sprites 0 0 ∧ second.Sprites 1 2 ∧ third.Sprites 2 3 ∧ fifth.Sprites 2 3 ∧
      start.answer (.load (.ofBytes spriteBytes)) = (first, none) ∧
      (third.answer (.load ((Argument.integer 4000).toProgram 0x10000))).2 =
        some (.fault (.romTooLarge 4000 3584)) ∧
      start.run spriteCalls = (fifth.answer (.frame (.integer 0))).1 := by
  obtain ⟨-, ⟨-, -, hfirst, hfine, -⟩, ⟨-, -, hsecond, hquiet, -⟩, -⟩ := spriteStats_eq
  obtain ⟨hload, hopened⟩ := Sprites.loaded hsteady hstate hframes hinstructions
  generalize hone : (start.answer (.load (.ofBytes spriteBytes))).1 = first at hopened
  have hdrawn : Sprites (first.answer (.frame (.integer 0))).1 1 2 := by
    have hnext := (hopened.frame (by decide)).2.2.2.2 hfine
    rw [hfirst] at hnext
    exact hnext
  generalize htwo : (first.answer (.frame (.integer 0))).1 = second at hdrawn
  have hcleared : Sprites (second.answer (.frame (.integer 0))).1 2 3 := by
    have hnext := (hdrawn.frame (by decide)).2.2.2.2 hquiet
    rw [hsecond] at hnext
    exact hnext
  generalize hthree : (second.answer (.frame (.integer 0))).1 = third at hcleared
  have hlong : third.answer (.load ((Argument.integer 4000).toProgram 0x10000)) =
      third.refused (.fault (.romTooLarge 4000 3584)) := hcleared.steady.load_of_error rfl
  have hkept :
      Sprites (third.answer (.load ((Argument.integer 4000).toProgram 0x10000))).1 2 3 := by
    rw [hlong]
    exact hcleared.of_reloaded (.refused third _) rfl
  have hfailure := congrArg Prod.snd hlong
  generalize hfour :
    (third.answer (.load ((Argument.integer 4000).toProgram 0x10000))).1 = fourth at hkept
  have hwaited : Sprites (fourth.answer (.wait 1)).1 2 3 := hkept.of_reloaded (.wait fourth 1) rfl
  generalize hfive : (fourth.answer (.wait 1)).1 = fifth at hwaited
  refine ⟨first, second, third, fourth, fifth, ?_, hopened, hdrawn, hcleared, hwaited,
    ?_, hfailure, ?_⟩
  · rw [spriteCalls, exchanges_cons, hone, exchanges_cons, htwo, exchanges_cons,
      second.answer_of_error rfl, exchanges_cons, hthree, exchanges_cons, hfour, exchanges_cons,
      hfive, exchanges_cons, exchanges_nil]
  · rw [← hone, hload]
  · rw [spriteCalls, run_cons, hone, run_cons, htwo, run_cons, second.answer_of_error rfl,
      run_cons, hthree, run_cons, hfour, run_cons, hfive, run_cons, run_nil]

section Reports

variable {start : Machine} (hsteady : start.Steady) (hstate : start.state = .ofSeed 0)
  (hframes : start.frames = 0) (hinstructions : start.instructions = 0)

include hsteady hstate hframes hinstructions

/-- The first two frames come through. -/
theorem Machine.completed_spriteCalls :
    ∃ first second : Machine, first.Sprites 0 0 ∧ second.Sprites 1 2 ∧
      (start.exchanges spriteCalls).filter Exchange.completed =
        [⟨first, .frame (.integer 0)⟩, ⟨second, .frame (.integer 0)⟩] := by
  obtain ⟨-, ⟨-, -, -, hfine, -⟩, ⟨-, -, -, hquiet, -⟩, -, -, -, hfault, -⟩ := spriteStats_eq
  obtain ⟨first, second, third, fourth, fifth, hexchanges, hfirst, hsecond, -, hfifth, -⟩ :=
    exchanges_spriteCalls hsteady hstate hframes hinstructions
  obtain ⟨-, -, hfirstCompleted, -⟩ := hfirst.frame (by decide)
  obtain ⟨-, -, hsecondCompleted, -⟩ := hsecond.frame (by decide)
  obtain ⟨-, -, hlastCompleted, -⟩ := hfifth.frame (by decide)
  rw [hfine] at hfirstCompleted
  rw [hquiet] at hsecondCompleted
  rw [hfault] at hlastCompleted
  have hload (machine : Machine) (program : Program) :
      Exchange.completed ⟨machine, .load program⟩ = false := rfl
  have hwait (machine : Machine) : Exchange.completed ⟨machine, .wait 1⟩ = false := rfl
  have hmask : Exchange.completed ⟨second, .frame (.integer 0x10000)⟩ = false := rfl
  refine ⟨first, second, hfirst, hsecond, ?_⟩
  rw [hexchanges]
  simp [hload, hwait, hmask, hfirstCompleted, hsecondCompleted, hlastCompleted]

/-- What the calls report, and the state that they leave. -/
theorem Machine.reports_spriteCalls :
    (start.exchanges spriteCalls).flatMap Exchange.reports =
        [.executed [(.ldImm, 1), (.drw, 1)] 22761, .finished 2 22761,
          .executed [(.drw, 1)] 22734, .finished 1 22734,
          .executed [] 0, .failed (.invalidOp 0xFF 0xFF)] ∧
      (start.run spriteCalls).state.budget.toInt = 4503 := by
  obtain ⟨-, ⟨hcounts, helapsed, hexecuted, hfine, -⟩,
    ⟨hcountsTwo, helapsedTwo, hexecutedTwo, hfineTwo, -⟩,
    hcountsThree, helapsedThree, -, hfault, -, -, hbudget⟩ := spriteStats_eq
  obtain ⟨first, second, third, fourth, fifth, hexchanges, hfirst, hsecond, -, hfifth, -, -,
    hrun⟩ := exchanges_spriteCalls hsteady hstate hframes hinstructions
  have frame {machine : Machine} {frames : Nat} {instructions : Int}
      (h : machine.Sprites frames instructions) (hframes : frames < 3) :
      Exchange.reports ⟨machine, .frame (.integer 0)⟩ =
        [.executed (spriteStats frames).opCounts (spriteStats frames).elapsed.toInt,
          match (spriteStats frames).fault? (spriteState (frames + 1)) with
          | some fault => .failed fault
          | none => .finished (spriteStats frames).instructions.toInt
              (spriteStats frames).elapsed.toInt] := by
    have hreports := State.reports_of_runFrame (h.runFrame_state hframes)
    exact hreports
  refine ⟨?_, ?_⟩
  · rw [hexchanges]
    simp only [List.flatMap_cons, List.flatMap_nil, frame hfirst (by decide),
      frame hsecond (by decide), frame hfifth (by decide), hcounts, helapsed, hexecuted, hfine,
      hcountsTwo, helapsedTwo, hexecutedTwo, hfineTwo, hcountsThree, helapsedThree, hfault]
    rfl
  · have hlast : (fifth.answer (.frame (.integer 0))).1.state = spriteState 3 :=
      (hfifth.frame (by decide)).1
    rw [hrun, hlast, hbudget]

/-- What an observer has summed up of them. -/
theorem Machine.sums_spriteCalls {place : Nat} (hempty : start.sumsAt place = some .empty)
    {sums : Metrics}
    (hfound : (start.run spriteCalls).observers[place]? = some (.metrics sums)) :
    sums = ⟨[(.ldImm, 1), (.drw, 2)], [2, 1], 45495, [.invalidOp 0xFF 0xFF]⟩ := by
  obtain ⟨hreports, -⟩ := Machine.reports_spriteCalls hsteady hstate hframes hinstructions
  have hsame := hsteady.sumsAt_run spriteCalls place
  rw [hreports, hempty, (sumsAt_eq_some_iff _ _).mpr hfound] at hsame
  exact Option.some.inj hsame

end Reports

end Sprites

end Chip8
