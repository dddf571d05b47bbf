import Chip8.Proofs.Decode.Word
import Chip8.Proofs.Execute.Counter
import Chip8.Proofs.Keypad.Held

/-!
# Where a word continues

Every word that decodes is either one of eleven kinds that may continue elsewhere
(`Op.diverting`), or it moves on to the next word.  `continuation_exact` gives the address
for each of these kinds and for all the rest, in numbers: a jump goes where its last three
digits say, a skip moves past one word or two, and a wait stays where it is.

`Execute.pc_execute` has the program counter of any instruction, as a word of sixteen bits.
What is left is arithmetic (`toNat_pc_offset`) and what the condition of a skip means: a byte
is compared with two digits of the word, and a key is held if it is one of the sixteen and has
its bit in the mask (`Keypad.isHeld_iff`).
-/

namespace Chip8

open Layout Decode

/-- The operations that may continue elsewhere than at the next word. -/
def Op.diverting : List Op :=
  [.jp, .call, .jpV0, .ret, .seImm, .sneImm, .seReg, .sneReg, .skp, .sknp, .ldVxK]

namespace Execute

/-- A word decodes, and after it has been carried out the program counter is at an
address. -/
def ContinuesAt (state : State) (word : Int) (address : Nat) : Prop :=
  ∃ instruction, decode word = .ok instruction ∧ (state.execute instruction).pc.toNat = address

/-! ### Onward -/

section

variable {state : State} {instruction : Instruction}

/-- An instruction that is none of the diverting ones neither skips nor waits. -/
theorem distance_eq_two (h : instruction.op ∉ Op.diverting) (state : State) :
    distance instruction state = 2 := by
  have hwaits : waits instruction state = false := by
    have hop : instruction.op ≠ .ldVxK := fun hop => h (by simp [Op.diverting, hop])
    simp [waits, hop]
  have hskips : skips instruction state = false := by
    unfold skips
    cases hop : instruction.op
    case seImm | sneImm | seReg | sneReg | skp | sknp => simp [Op.diverting, hop] at h
    all_goals rfl
  rw [distance, hwaits, hskips]
  rfl

theorem pc_execute_of_not_diverting (h : instruction.op ∉ Op.diverting) :
    (state.execute instruction).pc = state.pc + 2 := by
  rw [State.execute, pc_execute]
  split
  case h_5 => rw [distance_eq_two h]
  all_goals
    rename_i hop
    simp [Op.diverting, hop] at h

end

/-! ### Words that may continue elsewhere -/

section

variable {state : State} {f x y n : Nibble} {address : Nat}

theorem continuesAt_of_pattern (op : Op) (third fourth : Option Nat)
    (hpattern : op.pattern = [some f.val, none, third, fourth]) (hfamily : f.val ≠ 0)
    (hshows : Shows [y.val, n.val] [third, fourth])
    (hpc : (state.execute (instructionOf op f x y n)).pc.toNat = address) :
    ContinuesAt state (wordOf f x y n) address :=
  ⟨_, decode_wordOf third fourth hpattern hfamily hshows, hpc⟩

/-- A skip moves past the next word exactly if its condition holds. -/
theorem continuesAt_skip (op : Op) (third fourth : Option Nat) {condition : Bool} {holds : Prop}
    [Decidable holds] (hpattern : op.pattern = [some f.val, none, third, fourth])
    (hfamily : f.val ≠ 0) (hshows : Shows [y.val, n.val] [third, fourth])
    (hexecute : state.execute (instructionOf op f x y n) = skipIf condition state)
    (hcondition : condition = true ↔ holds) :
    ContinuesAt state (wordOf f x y n)
      (if holds then (state.pc.toNat + 4) % 0x10000 else (state.pc.toNat + 2) % 0x10000) := by
  apply continuesAt_of_pattern op third fourth hpattern hfamily hshows
  rw [hexecute, pc_skipIf, UInt16.toNat_add]
  by_cases hholds : holds
  · rw [if_pos hholds, if_pos (hcondition.mpr hholds)]
    rfl
  · rw [if_neg hholds, if_neg (mt hcondition.mp hholds)]
    rfl

/-- An address of three digits plus a byte fits in sixteen bits. -/
theorem toNat_pc_offset (op : Op) (f x y n : Nibble) (offset : UInt8) :
    ((instructionOf op f x y n).nnn + offset.toUInt16).toNat =
      0x100 * x.val + (0x10 * y.val + n.val) + offset.toNat := by
  have hx := x.isLt
  have hy := y.isLt
  have hn := n.isLt
  have hoffset := offset.toNat_lt
  rw [UInt16.toNat_add, toNat_nnn_instructionOf, UInt8.toNat_toUInt16]
  omega

theorem pc_comeBack {slot : Nat} (h : slot < stackSize)
    (hpointer : state.stack.pointer.toNat = slot + 1) (beyond : Overrun) :
    (comeBack beyond state).pc = state.stack.slots[slot] := by
  have hlast : (state.stack.pointer - 1).toNat = slot := by
    rw [UInt8.toNat_sub_of_le _ _ (by rw [UInt8.le_iff_toNat_le, hpointer]; simp), hpointer]
    simp
  simp only [comeBack, CallStack.pop, hlast, Bank.read_of_lt _ _ h]

theorem toNat_pc_awaitKey (x : Nibble) (state : State) :
    (awaitKey x state).pc.toNat =
      if state.keypad = 0 then state.pc.toNat else (state.pc.toNat + 2) % 0x10000 := by
  have hpc := state.pc.toNat_lt
  rw [pc_awaitKey, UInt16.toNat_add]
  simp only [Option.isNone_iff_eq_none, Keypad.lowestHeld?_eq_none_iff]
  split
  · exact Nat.mod_eq_of_lt hpc
  · rfl

theorem eq_byteOf_iff {byte : UInt8} : byte = byteOf y n ↔ byte.toNat = 0x10 * y.val + n.val := by
  rw [← UInt8.toNat_inj, toNat_byteOf]

end

end Execute

open Execute

/-- Whatever the state, every word that decodes continues where it is documented to, by what
the registers hold beforehand.  `1NNN` and `2NNN` continue at `NNN`, `BNNN` at `NNN` plus
`V0`, and `00EE` at the address in the last slot in use.  A skip moves on by four bytes if
its condition holds and by two if not, `FX0A` stays where it is while no key is held, and
every other word moves on by two; these addresses start again after sixteen bits. -/
theorem continuation_exact (state : State) (x y n : Nibble) :
    let vx := state.register x
    let vy := state.register y
    let nn := 0x10 * y.val + n.val
    let nnn := 0x100 * x.val + nn
    let stay := state.pc.toNat
    let next := (stay + 2) % 0x10000
    let past := (stay + 4) % 0x10000
    ContinuesAt state (wordOf 0x1 x y n) nnn ∧
    ContinuesAt state (wordOf 0x2 x y n) nnn ∧
    ContinuesAt state (wordOf 0xB x y n) (nnn + (state.register 0).toNat) ∧
    (∀ (slot : Nat) (h : slot < stackSize), state.stack.pointer.toNat = slot + 1 →
      ContinuesAt state (wordOf 0x0 0x0 0xE 0xE) state.stack.slots[slot].toNat) ∧
    ContinuesAt state (wordOf 0x3 x y n) (if vx.toNat = nn then past else next) ∧
    ContinuesAt state (wordOf 0x4 x y n) (if vx.toNat ≠ nn then past else next) ∧
    ContinuesAt state (wordOf 0x5 x y 0x0) (if vx = vy then past else next) ∧
    ContinuesAt state (wordOf 0x9 x y 0x0) (if vx ≠ vy then past else next) ∧
    ContinuesAt state (wordOf 0xE x 0x9 0xE)
      (if Keypad.Held state.keypad vx then past else next) ∧
    ContinuesAt state (wordOf 0xE x 0xA 0x1)
      (if ¬Keypad.Held state.keypad vx then past else next) ∧
    ContinuesAt state (wordOf 0xF x 0x0 0xA) (if state.keypad = 0 then stay else next) ∧
    ∀ (word : Int) (instruction : Instruction), decode word = .ok instruction →
      instruction.op.Selected word ∧
        (instruction.op ∉ Op.diverting → ContinuesAt state word next) := by
  intro vx vy nn nnn stay next past
  have hreleased : (!Keypad.isHeld state.keypad vx) = true ↔ ¬Keypad.Held state.keypad vx := by
    rw [Bool.not_eq_true', ← Bool.not_eq_true, Keypad.isHeld_iff]
  refine ⟨?_, ?_, ?_, ?_, ?_, ?_, ?_, ?_, ?_, ?_, ?_, ?_⟩
  · exact continuesAt_of_pattern .jp none none rfl (by decide) (by simp)
      (toNat_nnn_instructionOf .jp 0x1 x y n)
  · exact continuesAt_of_pattern .call none none rfl (by decide) (by simp)
      (toNat_nnn_instructionOf .call 0x2 x y n)
  · exact continuesAt_of_pattern .jpV0 none none rfl (by decide) (by simp)
      (toNat_pc_offset .jpV0 0xB x y n _)
  · intro slot hslot hpointer
    exact ⟨instructionOf .ret 0x0 0x0 0xE 0xE, rfl,
      congrArg UInt16.toNat (pc_comeBack hslot hpointer _)⟩
  · exact continuesAt_skip .seImm none none rfl (by decide) (by simp) rfl
      (beq_iff_eq.trans eq_byteOf_iff)
  · exact continuesAt_skip .sneImm none none rfl (by decide) (by simp) rfl
      (bne_iff_ne.trans (not_congr eq_byteOf_iff))
  · exact continuesAt_skip .seReg none (some 0x0) rfl (by decide) (by simp) rfl beq_iff_eq
  · exact continuesAt_skip .sneReg none (some 0x0) rfl (by decide) (by simp) rfl bne_iff_ne
  · exact continuesAt_skip .skp (some 0x9) (some 0xE) rfl (by decide) (by simp) rfl
      Keypad.isHeld_iff
  · exact continuesAt_skip .sknp (some 0xA) (some 0x1) rfl (by decide) (by simp) rfl
      hreleased
  · exact continuesAt_of_pattern .ldVxK (some 0x0) (some 0xA) rfl (by decide) (by simp)
      (toNat_pc_awaitKey x state)
  · intro word instruction hdecode
    refine ⟨selected_of_decode hdecode, fun hother => ⟨instruction, hdecode, ?_⟩⟩
    rw [pc_execute_of_not_diverting hother, UInt16.toNat_add]
    rfl

/-- At the end of the address space a return goes where its call was, an assignment moves on
to the first address, and a skip past it. -/
theorem continuation_exact_wrapping :
    let state := { State.fresh ⟨0, 0⟩ with pc := 0xFFFE, stack := CallStack.empty.push 0x234 }
    ContinuesAt state 0x00EE 0x234 ∧ ContinuesAt state 0x6012 0 ∧ ContinuesAt state 0x3000 2 := by
  intro state
  obtain ⟨-, -, -, hreturn, hskip, -, -, -, -, -, -, hother⟩ := continuation_exact state 0 0 0
  have hassign := (hother 0x6012 (instructionOf .ldImm 0x6 0x0 0x1 0x2) rfl).2 (by decide)
  have hpc : state.pc.toNat = 0xFFFE := rfl
  rw [hpc] at hassign hskip
  exact ⟨hreturn 0 (by decide) rfl, hassign, hskip⟩

end Chip8
