import Chip8.Decode.Table
import Chip8.Execute

/-!
# Frames

A frame latches the keypad, ticks both timers, grants a fixed amount of time and
spends it instruction by instruction.  It never raises an error.  An instruction
that would fail stops the frame before it changes anything, is not charged, and
is recorded in the statistics of the frame.

The loop never branches on an error while it looks at an instruction.  It
fetches from a clamped address, decodes by table, works out the outcome of every
check, and only then picks the earliest one that failed.

The budget ends the loop: every instruction costs at least 27 microseconds, so
the budget shrinks until it is spent (`remaining_tick_lt`).
-/

namespace Chip8

open Layout

/-! ### Statistics -/

/-- What one frame did.  The counters are signed numbers of 32 bits. -/
structure FrameStats where
  /-- Instructions carried out; the one that stopped the frame does not count. -/
  instructions : Int32
  /-- Their cost in microseconds. -/
  elapsed : Int32
  /-- How often each operation was carried out. -/
  counts : Vector Int32 Op.count
  /-- Why the frame stopped early. -/
  stop : StopCode
  /-- The word or address that the stop code refers to. -/
  operand : Int32
  deriving DecidableEq, Repr

namespace FrameStats

/-- The statistics of a frame that has done nothing yet. -/
def empty : FrameStats where
  instructions := 0
  elapsed := 0
  counts := Vector.replicate Op.count 0
  stop := .none
  operand := 0

/-- How often an operation was carried out. -/
def count (stats : FrameStats) (op : Op) : Int32 := stats.counts[op.code]

/-- Count one instruction. -/
def record (stats : FrameStats) (op : Op) : FrameStats :=
  { stats with
    instructions := stats.instructions + 1
    elapsed := stats.elapsed + op.cost
    counts := stats.counts.set op.code (stats.count op + 1) }

/-- The operations that were carried out, each with its count, in report order. -/
def opCounts (stats : FrameStats) : List (Op × Int) :=
  (Op.all.toList.map fun op => (op, (stats.count op).toInt)).filter fun entry => entry.2 != 0

/-- The fault that stopped a frame, given the state it stopped in. -/
def fault? (stats : FrameStats) (state : State) : Option Fault :=
  Fault.ofStop stats.stop state.pc.toNat stats.operand.toInt

end FrameStats

/-! ### The start of a frame -/

/-- Latch the keypad, tick both timers and grant the time of one frame.  The
buzzer sounds in this frame if the sound timer was running. -/
def State.beginFrame (state : State) (keypad : UInt16) : State :=
  { state with
    keypad
    delayTimer := if state.delayTimer = 0 then 0 else state.delayTimer - 1
    soundTimer := if state.soundTimer = 0 then 0 else state.soundTimer - 1
    tone := state.soundTimer != 0
    budget := state.budget + Int32.ofNat frameBudget }

namespace Frame

/-! ### One round of the loop -/

/-- The word at the program counter, or at the last address that can be fetched
if the counter is past it. -/
def word (state : State) : Int32 :=
  let address := min state.pc.toNat maxFetchAddress
  have hle : address ≤ maxFetchAddress := Nat.min_le_right _ _
  have := succ_lt_memorySize hle
  let high := state.memory[address].toUInt32.toInt32
  let low := state.memory[address + 1].toUInt32.toInt32
  high <<< 8 ||| low

/-- How many bytes a word reaches through the index; none if it has no
operation. -/
def span (op : Option Op) (operands : Operands) : Int32 :=
  if op = some .ldMemVx ∨ op = some .ldVxMem then Int32.ofNat operands.x.val + 1
  else if op = some .ldB then 3
  else if op = some .drw then Int32.ofNat operands.n.val
  else 0

/-- The outcome of one check: whether it failed, and what it would record. -/
structure Check where
  failed : Bool
  stop : StopCode
  operand : Int32
  deriving DecidableEq, Repr

/-- All checks of a word, the earliest first. -/
def checks (state : State) (op : Option Op) (operands : Operands) : List Check :=
  let pc := state.pc.toUInt32.toInt32
  let pointer := state.stack.pointer
  let span := span op operands
  let last := state.index.toUInt32.toInt32 + span - 1
  [⟨pc > Int32.ofNat maxFetchAddress, .pcOutOfBounds, pc⟩,
    ⟨op = none, .invalidOp, operands.raw.toUInt32.toInt32⟩,
    ⟨op = some .call ∧ pointer ≥ UInt8.ofNat stackSize, .stackOverflow, pc⟩,
    ⟨op = some .ret ∧ pointer = 0, .stackUnderflow, pc⟩,
    ⟨span > 0 ∧ last ≥ Int32.ofNat memorySize, .memoryOutOfBounds, last⟩]

/-- What to record of a list of checks: the earliest one that failed, found by
walking backwards and letting each earlier failure win. -/
def verdict (checks : List Check) : StopCode × Int32 :=
  checks.foldr (fun check later => if check.failed then (check.stop, check.operand) else later)
    (.none, 0)

/-- One round: carry out the instruction at the program counter, or stop. -/
def tick (state : State) (stats : FrameStats) : State × FrameStats :=
  let (op, operands) := Decode.Table.decode (word state)
  match verdict (checks state op operands), op with
  -- Without a failed check the recorded operand is zero.
  | (.none, operand), some op =>
      ({ state.execute { operands with op } with budget := state.budget - op.cost },
        { stats.record op with operand })
  | (stop, operand), _ => (state, { stats with stop, operand })

/-! ### The loop -/

/-- Whether another round is due. -/
def Running (state : State) (stats : FrameStats) : Prop :=
  0 < state.budget ∧ stats.stop = .none

instance (state : State) (stats : FrameStats) : Decidable (Running state stats) :=
  inferInstanceAs (Decidable (_ ∧ _))

/-- The time that is left to a frame that has not stopped. -/
def remaining (state : State) (stats : FrameStats) : Nat :=
  if stats.stop = .none then state.budget.toInt.toNat else 0

/-- A word without an operation never passes. -/
theorem verdict_none (state : State) (operands : Operands) :
    (verdict (checks state none operands)).1 ≠ .none := by
  simp only [checks, verdict, List.foldr_cons]
  split <;> simp

/-- Taking a cost off a positive budget does not wrap. -/
theorem toInt_budget_sub_cost {budget : Int32} (h : 0 < budget) (op : Op) :
    (budget - op.cost).toInt = budget.toInt - op.cost.toInt := by
  have hpositive : 0 < budget.toInt := by simpa using Int32.lt_iff_toInt_lt.mp h
  have hlow := op.le_toInt_cost
  have hhigh := op.toInt_cost_le
  have hlt := budget.toInt_lt
  rw [Int32.toInt_sub, Int.bmod_eq_of_le] <;> omega

/-- Every round leaves less time than there was. -/
theorem remaining_tick_lt {state : State} {stats : FrameStats} (h : Running state stats) :
    remaining (tick state stats).1 (tick state stats).2 < remaining state stats := by
  obtain ⟨hbudget, hstop⟩ := h
  have hpositive : 0 < state.budget.toInt := by simpa using Int32.lt_iff_toInt_lt.mp hbudget
  have hold : remaining state stats = state.budget.toInt.toNat := if_pos hstop
  rw [hold]
  unfold tick
  generalize Decode.Table.decode (word state) = decoded
  obtain ⟨op, operands⟩ := decoded
  dsimp only
  split
  -- The instruction was carried out: its cost comes off the budget.
  · rename_i op _
    have hcost := op.le_toInt_cost
    simp only [remaining, FrameStats.record, hstop, if_true, toInt_budget_sub_cost hbudget]
    omega
  -- The frame stopped: nothing remains, whatever is left of the budget.
  · rename_i decoded _ _ stop operand hnone hverdict
    have hfailed : stop ≠ .none := by
      rintro rfl
      cases hop : decoded with
      | none => exact verdict_none state operands (by rw [← hop, hverdict])
      | some op => exact hnone op hop rfl
    simp only [remaining, hfailed, if_false]
    omega

/-- Run rounds until the budget is spent or an instruction fails. -/
def run (state : State) (stats : FrameStats) : State × FrameStats :=
  if _h : Running state stats then
    let next := tick state stats
    run next.1 next.2
  else (state, stats)
termination_by remaining state stats
decreasing_by exact remaining_tick_lt ‹_›

theorem run_of_running {state : State} {stats : FrameStats} (h : Running state stats) :
    run state stats = run (tick state stats).1 (tick state stats).2 := by
  rw [run, dif_pos h]

theorem run_of_not_running {state : State} {stats : FrameStats} (h : ¬Running state stats) :
    run state stats = (state, stats) := by
  rw [run, dif_neg h]

end Frame

/-- Run one frame with the given keys held. -/
def State.runFrame (state : State) (keypad : UInt16) : State × FrameStats :=
  Frame.run (state.beginFrame keypad) .empty

end Chip8
