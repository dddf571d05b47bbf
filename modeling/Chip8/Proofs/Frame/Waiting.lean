import Chip8.Proofs.Decode.Word
import Chip8.Proofs.Execute.Counter
import Chip8.Proofs.Frame.Pacing
import Chip8.Proofs.Keypad.Held

/-!
# Waiting for a key

An `FX0A` word waits: while no key is held it is carried out over and over, each time for
200 microseconds and without effect.  Whether a key is held is looked at anew each time,
so a key that is held already when the word is reached ends the wait at once.

Keys are latched when a frame begins.  Frames without a key leave everything as it was but
what frames latch, tick and grant (`State.Stays`).  In the first frame with a key the first
instruction takes the lowest one (`Stride.Answers`), if the frame carries out anything.

A frame that begins with more debt than it grants carries out nothing, and a key that is
held for that frame only is missed.  This takes a drawing before the wait.  A frame of
waiting never leaves that much debt, so from the second frame on no key is missed.
-/

namespace Chip8

open Layout

/-! ### The word -/

/-- The word that waits for a key and puts it into register `x`. -/
def waitWord (x : Nibble) : UInt16 := UInt16.ofNat (0xF00A + 256 * x.val)

/-- The instruction that waits for a key and puts it into register `x`. -/
def waiting (x : Nibble) : Instruction :=
  { Decode.operands (Decode.byteOf 0xF x) 0x0A with op := .ldVxK }

theorem waiting_eq (x : Nibble) : waiting x = Decode.instructionOf .ldVxK 0xF x 0x0 0xA := by
  have hlow : (0x0A : UInt8) = Decode.byteOf 0x0 0xA := rfl
  rw [waiting, hlow, Decode.operands_byteOf .ldVxK]
  rfl

@[simp] theorem op_waiting (x : Nibble) : (waiting x).op = .ldVxK := rfl

@[simp] theorem x_waiting (x : Nibble) : (waiting x).x = x := by
  rw [waiting_eq]
  rfl

theorem decode_waitWord (x : Nibble) : decode (waitWord x).toNat = .ok (waiting x) := by
  have hx := x.isLt
  have hword : ((waitWord x).toNat : Int) = Decode.wordOf 0xF x 0x0 0xA := by
    rw [waitWord, UInt16.toNat_ofNat', Decode.wordOf]
    omega
  rw [hword, waiting_eq]
  exact Decode.decode_wordOf (some 0x0) (some 0xA) rfl (by decide) (by simp)

/-! ### Steps -/

/-- Two states differ at most in what frames latch, tick and grant. -/
structure State.Stays (before after : State) : Prop where
  pc : after.pc = before.pc
  registers : after.registers = before.registers
  index : after.index = before.index
  memory : after.memory = before.memory
  stack : after.stack = before.stack
  screen : after.screen = before.screen
  random : after.random = before.random

/-- A key ends the wait: the lowest held key goes into register `x`, and the program goes on
behind the word. -/
structure Stride.Answers (stride : Stride) (x : Nibble) : Prop where
  instruction : stride.instruction = waiting x
  key : ∃ key < keyCount, stride.after.register x = UInt8.ofNat key ∧
    stride.before.keypad.toNat.testBit key ∧
    ∀ lower < key, stride.before.keypad.toNat.testBit lower = false
  pc : stride.after.pc.toNat = stride.before.pc.toNat + 2
  budget : stride.after.budget.toInt = stride.before.budget.toInt - 200

namespace State

variable {state : State} {x : Nibble}

theorem Stays.refl (state : State) : state.Stays state :=
  ⟨rfl, rfl, rfl, rfl, rfl, rfl, rfl⟩

theorem Stays.trans {first second third : State} (h : first.Stays second)
    (hrest : second.Stays third) : first.Stays third :=
  ⟨hrest.pc.trans h.pc, hrest.registers.trans h.registers, hrest.index.trans h.index,
    hrest.memory.trans h.memory, hrest.stack.trans h.stack, hrest.screen.trans h.screen,
    hrest.random.trans h.random⟩

theorem Stays.fetch {before after : State} (h : before.Stays after) :
    after.fetch = before.fetch := by
  unfold State.fetch
  simp only [h.pc, h.memory]

theorem stays_beginFrame (state : State) (keypad : UInt16) :
    state.Stays (state.beginFrame keypad) :=
  ⟨rfl, rfl, rfl, rfl, rfl, rfl, rfl⟩

theorem step_of_waitWord (hword : state.fetch = .ok (waitWord x)) :
    state.step = .ok ((Execute.awaitKey x state).charge 200, waiting x) := by
  have hcheck : state.check (waiting x) = .ok () := by
    rw [check_eq_ok_iff]
    exact ⟨by simp [reach], by simp, by simp⟩
  rw [step_of_check hword (decode_waitWord x) hcheck]
  simp only [State.execute, Chip8.execute, op_waiting, x_waiting]
  rfl

/-- With no key held, waiting costs time and has no other effect. -/
theorem step_of_no_key (hword : state.fetch = .ok (waitWord x)) (hkeypad : state.keypad = 0) :
    state.step = .ok (state.charge 200, waiting x) := by
  have hpc : state.advance 0 = state := by
    rw [advance, UInt16.mul_zero, UInt16.add_zero]
  rw [step_of_waitWord hword, Execute.awaitKey, Keypad.lowestHeld?_eq_none_iff.mpr hkeypad]
  simp only [hpc]

/-- With a key held, waiting is over. -/
theorem answers_of_step {next : State} {instruction : Instruction}
    (hword : state.fetch = .ok (waitWord x)) (hkeypad : state.keypad ≠ 0)
    (hbudget : 0 < state.budget) (hstep : state.step = .ok (next, instruction)) :
    Stride.Answers ⟨state, instruction, next⟩ x := by
  have hpc := toNat_pc_add_two hstep
  have hcost := toInt_budget_of_step hbudget hstep
  have htaken := step_of_waitWord hword
  rw [hstep, Except.ok.injEq, Prod.mk.injEq] at htaken
  obtain ⟨rfl, rfl⟩ := htaken
  cases hkey : Keypad.lowestHeld? state.keypad with
  | none => exact absurd (Keypad.lowestHeld?_eq_none_iff.mp hkey) hkeypad
  | some key =>
      obtain ⟨hheld, hlower⟩ := Keypad.lowestHeld?_eq_some_iff.mp hkey
      have hpressed : Execute.awaitKey x state =
          (state.setRegister x (UInt8.ofNat key.val)).advance 1 := by
        rw [Execute.awaitKey, hkey]
      rw [hpressed] at hcost ⊢
      refine ⟨rfl, ⟨key.val, key.isLt, ?_, hheld, hlower⟩, hpc, hcost⟩
      exact (register_setRegister state x x _).trans (if_pos rfl)

/-! ### Frames without a key -/

theorem walk_of_no_key (hword : state.fetch = .ok (waitWord x)) (hkeypad : state.keypad = 0) :
    state.walk.fault = none ∧ (∀ stride ∈ state.walk.strides, stride.instruction = waiting x) ∧
      state.Stays state.walk.last := by
  induction state using walk_induction with
  | spent state hbudget =>
      rw [walk_of_spent hbudget]
      exact ⟨rfl, by simp, .refl state⟩
  | refused state fault hbudget hstep =>
      rw [step_of_no_key hword hkeypad] at hstep
      contradiction
  | taken state next instruction hbudget hstep ih =>
      have hwait := step_of_no_key hword hkeypad
      rw [hstep, Except.ok.injEq, Prod.mk.injEq] at hwait
      obtain ⟨rfl, rfl⟩ := hwait
      -- The next state differs from this one in its budget only, so it waits as well.
      have hstays : state.Stays (state.charge 200) := ⟨rfl, rfl, rfl, rfl, rfl, rfl, rfl⟩
      obtain ⟨hfault, hstrides, hlast⟩ := ih (hstays.fetch.trans hword) hkeypad
      rw [walk_of_ok hbudget hstep]
      refine ⟨hfault, ?_, hstays.trans hlast⟩
      rw [List.forall_mem_cons]
      exact ⟨rfl, hstrides⟩

end State

/-- A frame waits: no fault stops it, and it carries out nothing but the waiting. -/
structure Turn.Waits (turn : Turn) (x : Nibble) : Prop where
  stop : turn.stats.stop = .none
  strides : ∀ stride ∈ turn.strides, stride.instruction = waiting x

namespace Turn

variable {turn : Turn} {x : Nibble}

theorem waits_of_no_key (hword : turn.start.fetch = .ok (waitWord x)) (hkeypad : turn.keypad = 0) :
    turn.Waits x ∧ turn.start.Stays turn.final := by
  have hopened : turn.start.Stays turn.opened := State.stays_beginFrame _ _
  obtain ⟨hfault, hstrides, hlast⟩ :=
    State.walk_of_no_key (hopened.fetch.trans hword) hkeypad
  rw [final_eq_last]
  exact ⟨⟨turn.stop_eq_none_iff.mpr hfault, hstrides⟩, hopened.trans hlast⟩

/-- A frame that waits leaves less debt than the next one grants. -/
theorem Waits.budget_pos (h : turn.Waits x) (hsettled : Settled turn.start) (keypad : UInt16) :
    0 < (Turn.mk turn.final keypad).opened.budget.toInt := by
  have hdebt : -frameBudget < turn.final.budget.toInt := by
    by_contra hdebt
    obtain ⟨stride, hlast, hop⟩ := op_eq_drw_of_debt hsettled (Int.not_lt.mp hdebt)
    rw [h.strides stride (List.mem_of_getLast? hlast), op_waiting] at hop
    contradiction
  have hopened : (Turn.mk turn.final keypad).opened.budget.toInt =
      turn.final.budget.toInt + frameBudget :=
    toInt_budget_opened (settled_final hsettled h.stop)
  omega

/-- With a key held, a frame does nothing if it has no budget, and otherwise answers. -/
theorem answers_of_key (hword : turn.start.fetch = .ok (waitWord x)) (hkeypad : turn.keypad ≠ 0) :
    turn.strides = [] ∧ turn.opened.budget.toInt ≤ 0 ∨
      ∃ first rest, turn.strides = first :: rest ∧ first.before = turn.opened ∧
        first.Answers x := by
  have hopened := (State.stays_beginFrame turn.start turn.keypad).fetch.trans hword
  by_cases hbudget : 0 < turn.opened.budget
  · have hstep := State.step_of_waitWord hopened
    right
    rw [strides, State.walk_of_ok hbudget hstep]
    exact ⟨_, _, rfl, rfl, State.answers_of_step hopened hkeypad hbudget hstep⟩
  · left
    rw [strides, State.walk_of_spent hbudget]
    rw [State.budget_pos_iff] at hbudget
    exact ⟨rfl, Int.not_lt.mp hbudget⟩

end Turn

/-- Any number of frames without a key wait. -/
theorem State.waits_of_no_key {state : State} {x : Nibble}
    (hword : state.fetch = .ok (waitWord x)) (n : Nat) :
    (∀ turn ∈ state.turns (List.replicate n 0), turn.Waits x) ∧
      state.Stays (state.runFrames (List.replicate n 0)) := by
  induction n generalizing state with
  | zero => exact ⟨by simp, .refl state⟩
  | succ n ih =>
      obtain ⟨hwaits, hstays⟩ := @Turn.waits_of_no_key ⟨state, 0⟩ x hword rfl
      obtain ⟨hturns, hrest⟩ := ih (hstays.fetch.trans hword)
      rw [List.replicate_succ, turns_cons, runFrames_cons, List.forall_mem_cons]
      exact ⟨⟨hwaits, hturns⟩, hstays.trans hrest⟩

/-- From the second frame of a wait on, none begins with more debt than it grants. -/
theorem Settled.budget_pos_of_waited {state : State} {x : Nibble} (h : Settled state)
    (hword : state.fetch = .ok (waitWord x)) {n : Nat} (hn : n ≠ 0) (keypad : UInt16) :
    0 < (Turn.mk (state.runFrames (List.replicate n 0)) keypad).opened.budget.toInt := by
  obtain ⟨n, rfl⟩ := Nat.exists_eq_succ_of_ne_zero hn
  obtain ⟨hturns, hstays⟩ := State.waits_of_no_key hword n
  have hsettled : Settled (state.runFrames (List.replicate n 0)) :=
    (h.runFrames fun turn hturn => (hturns turn hturn).stop).1
  -- The last of the frames decides, and it does nothing but wait.
  have hwaits : (Turn.mk (state.runFrames (List.replicate n 0)) 0).Waits x :=
    (Turn.waits_of_no_key (hstays.fetch.trans hword) rfl).1
  rw [List.replicate_succ', State.runFrames_concat]
  exact hwaits.budget_pos hsettled keypad

/-! ### The frame with a key -/

/-- A state that is reached by loading programs and running frames of which no fault stops
any.  The machine begins without budget or debt, as a fresh one does. -/
inductive Faultless : State → Prop where
  | opening {state : State} (hbudget : state.budget = 0) : Faultless state
  | load {state next : State} {program : Program} (h : Faultless state)
      (hload : state.loadProgram program = .ok next) : Faultless next
  | frame {turn : Turn} (h : Faultless turn.start) (hfine : turn.stats.stop = .none) :
      Faultless turn.final

theorem Faultless.settled {state : State} (h : Faultless state) : Settled state := by
  induction h with
  | @opening state hbudget =>
      have hzero : state.budget.toInt = 0 := by rw [hbudget]; rfl
      exact ⟨by omega, by omega⟩
  | load _ hload ih =>
      rw [State.eq_of_loadProgram hload]
      exact ⟨ih.lower, ih.upper⟩
  | frame _ hfine ih => exact Turn.settled_final ih hfine

/-- A machine that no fault has stopped waits for a key.  Any number of frames without a key
carry out nothing but the waiting and leave everything as it was but what frames latch, tick
and grant.  In the frame after them, with some keys held, the first instruction puts the
lowest of these into the register.  Or else the frame carries out nothing, as it is granted
no more than the debt it begins with; and then it is the first frame of all. -/
theorem waits_for_key {state : State} (h : Faultless state) {x : Nibble}
    (hword : state.fetch = .ok (waitWord x)) (n : Nat) :
    let waited := state.runFrames (List.replicate n 0)
    (∀ turn ∈ state.turns (List.replicate n 0), turn.Waits x) ∧ state.Stays waited ∧
    ∀ keypad, keypad ≠ 0 →
      let turn := Turn.mk waited keypad
      turn.stats.instructions.toInt = turn.strides.length ∧
      (turn.strides = [] ∧ turn.opened.budget.toInt ≤ 0 ∧ n = 0 ∨
        ∃ first rest, turn.strides = first :: rest ∧ first.before = turn.opened ∧
          first.Answers x) := by
  intro waited
  obtain ⟨hturns, hstays⟩ := State.waits_of_no_key hword n
  refine ⟨hturns, hstays, ?_⟩
  intro keypad hkeypad turn
  refine ⟨turn.instructions_eq_length, ?_⟩
  have hword' : turn.start.fetch = .ok (waitWord x) := hstays.fetch.trans hword
  rcases Turn.answers_of_key hword' hkeypad with ⟨hidle, hspent⟩ | hanswers
  · refine Or.inl ⟨hidle, hspent, ?_⟩
    by_contra hn
    exact absurd (h.settled.budget_pos_of_waited hword hn keypad) (Int.not_lt.mpr hspent)
  · exact Or.inr hanswers

/-- Two frames without a key and one with keys one and seven, from an `F30A` word on. -/
theorem waits_for_key_f30a :
    let state := { State.ofSeed 0 with
      memory := Bank.writeAll State.blankMemory [(0x200, 0xF3), (0x201, 0x0A)] }
    Faultless state ∧ state.fetch = .ok (waitWord 3) ∧
    ∃ first rest, (Turn.mk (state.runFrames [0, 0]) 0x82).strides = first :: rest ∧
      first.after.register 3 = 1 := by
  intro state
  have hbytes : state.memory[0x200] = 0xF3 ∧ state.memory[0x201] = 0x0A := by decide +kernel
  have hword : state.fetch = .ok (waitWord 3) :=
    State.fetch_at rfl (by decide) hbytes.1 hbytes.2
  have hfaultless : Faultless state := .opening rfl
  obtain ⟨-, -, hnext⟩ := waits_for_key hfaultless hword 2
  rcases (hnext 0x82 (by decide)).2 with ⟨-, -, hfirst⟩ | ⟨first, rest, hstrides, hbefore, answers⟩
  · contradiction
  · obtain ⟨key, -, hregister, hheld, hlower⟩ := answers.key
    have hkeypad : first.before.keypad = 0x82 := by rw [hbefore]; rfl
    have hlowest : key = 1 := by
      rw [hkeypad] at hheld hlower
      rcases Nat.lt_trichotomy key 1 with hbelow | hkey | habove
      · rw [Nat.lt_one_iff.mp hbelow] at hheld
        contradiction
      · exact hkey
      · exact absurd (hlower 1 habove) (by decide)
    refine ⟨hfaultless, hword, first, rest, hstrides, ?_⟩
    rw [hregister, hlowest]
    rfl

end Chip8
