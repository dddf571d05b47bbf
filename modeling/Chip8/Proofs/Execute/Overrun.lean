import Chip8.Proofs.Execute.Changes
import Chip8.Proofs.Guard.Reach
import Chip8.Proofs.Writes

/-!
# What lies beyond the end does not matter

Execution always gathers full-width lanes: fifteen rows of a sprite, sixteen bytes
for a transfer of registers.  Near the end of memory some lanes lie past it.  What
they read is a parameter of `execute`, and what they write is dropped.

For an instruction that the guard lets pass neither matters.  The lanes that exist
on purpose are all in range (`InRange`), and the others are masked: a row past the
sprite's height is drawn as zero, a register above the last one keeps its value,
and a byte above the last one is written back as it was read.  So the outcome is
the same whatever lies beyond the end (`execute_congr`), and a write that is
dropped would have put back what its lane had read (`put_back_of_mem_memoryWrites`).
`guards_exact` puts this together with what the guards let pass.
-/

namespace Chip8

open Layout

/-- Below the pointer of a stack with an open call lies a slot. -/
theorem CallStack.toNat_pred_lt {pointer : UInt8} (hpointer : pointer.toNat ≤ stackSize)
    (hopen : 1 ≤ pointer.toNat) : (pointer - 1).toNat < stackSize := by
  have hle : (1 : UInt8) ≤ pointer := UInt8.le_iff_toNat_le.mpr hopen
  rw [UInt8.toNat_sub_of_le _ _ hle]
  simp only [UInt8.toNat_one, stackSize] at hpointer ⊢
  omega

namespace Execute

variable {state : State} {instruction : Instruction}

/-! ### Lanes -/

theorem readByte_of_lt (beyond : Overrun) (state : State) {address : Nat}
    (h : address < memorySize) : readByte beyond state address = state.memory[address] :=
  Bank.read_of_lt _ _ h

theorem getElem_crop_gather (read : Nat → UInt8) (origin : Nat) (height : Nibble) {row : Nat}
    (hrow : row < maxSpriteHeight) :
    (Sprite.crop height (Sprite.gather read origin))[row] =
      if row < height.val then read (origin + row) else 0 := by
  simp only [Sprite.crop, Sprite.gather, Fin.getElem_fin, Vector.getElem_ofFn]

theorem getElem_blend (last : Nibble) (chosen other : Registers) {lane : Nat}
    (hlane : lane < registerCount) :
    (Transfer.blend last chosen other)[lane] =
      if lane ≤ last.val then chosen[lane] else other[lane] := by
  simp only [Transfer.blend, Vector.getElem_ofFn]
  rfl

theorem getElem_gather (read : Nat → UInt8) (origin : Nat) {lane : Nat}
    (hlane : lane < registerCount) :
    (Transfer.gather read origin)[lane] = read (origin + lane) := by
  simp only [Transfer.gather, Vector.getElem_ofFn]

theorem getElem_store (beyond : Overrun) (state : State) (last : Nibble) {lane : Nat}
    (hlane : lane < registerCount) (hstored : lane ≤ last.val)
    (h : state.index.toNat + lane < memorySize) :
    (Bank.writeAll state.memory (Transfer.storeWrites (readByte beyond state)
        state.index.toNat last state.registers))[state.index.toNat + lane] =
      state.registers[lane] := by
  rw [Transfer.storeWrites, Transfer.getElem_writeAll_writes _ _ _ hlane h, getElem_blend,
    if_pos hstored]

theorem getElem_store_of_not_mem (beyond : Overrun) (state : State) (last : Nibble) {i : Nat}
    (hi : i < memorySize) (h : i < state.index.toNat ∨ state.index.toNat + last.val < i) :
    (Bank.writeAll state.memory (Transfer.storeWrites (readByte beyond state)
        state.index.toNat last state.registers))[i] = state.memory[i] := by
  by_cases hlane : state.index.toNat ≤ i ∧ i < state.index.toNat + registerCount
  -- A masked lane puts back what it read.
  · obtain ⟨lane, rfl⟩ := Nat.exists_eq_add_of_le hlane.1
    have hlt : lane < registerCount := by omega
    have hmasked : ¬lane ≤ last.val := by omega
    rw [Transfer.storeWrites, Transfer.getElem_writeAll_writes _ _ _ hlt hi, getElem_blend,
      if_neg hmasked, getElem_gather, readByte_of_lt _ _ hi]
  · rw [Transfer.storeWrites]
    exact Transfer.getElem_writeAll_writes_of_not_mem _ _ _ hi (by omega)

theorem getElem_load (read : Nat → UInt8) (origin : Nat) (last : Nibble)
    (registers : Registers) {lane : Nat} (hlane : lane < registerCount) :
    (Transfer.load read origin last registers)[lane] =
      if lane ≤ last.val then read (origin + lane) else registers[lane] := by
  rw [Transfer.load, getElem_blend, getElem_gather]

/-! ### Independence -/

theorem readByte_congr (inRange : InRange state instruction) (beyond other : Overrun)
    {address : Nat} (h : address ∈ state.reach instruction) :
    readByte beyond state address = readByte other state address := by
  have hlt := inRange.memory address h
  rw [readByte_of_lt beyond state hlt, readByte_of_lt other state hlt]

theorem comeBack_congr (hpointer : state.stack.pointer.toNat ≤ stackSize)
    (hopen : 1 ≤ state.stack.pointer.toNat) (beyond other : Overrun) :
    comeBack beyond state = comeBack other state := by
  have hlt := CallStack.toNat_pred_lt hpointer hopen
  simp only [comeBack, CallStack.pop, Bank.read_of_lt _ _ hlt]

theorem spriteStrokes_congr (inRange : InRange state instruction) (hop : instruction.op = .drw)
    (beyond other : Overrun) :
    spriteStrokes beyond instruction.x instruction.y instruction.n state =
      spriteStrokes other instruction.x instruction.y instruction.n state := by
  have hrows :
      Sprite.crop instruction.n (Sprite.gather (readByte beyond state) state.index.toNat) =
        Sprite.crop instruction.n (Sprite.gather (readByte other state) state.index.toNat) := by
    ext row hrow
    rw [getElem_crop_gather, getElem_crop_gather]
    split
    case isTrue hinside =>
      rw [readByte_congr inRange beyond other]
      simp only [State.reach, hop, List.mem_range'_1]
      omega
    case isFalse => rfl
  simp only [spriteStrokes, hrows]

theorem storeRegisters_congr (beyond other : Overrun) (last : Nibble) :
    storeRegisters beyond last state = storeRegisters other last state := by
  have hmemory :
      Bank.writeAll state.memory (Transfer.storeWrites (readByte beyond state)
          state.index.toNat last state.registers) =
        Bank.writeAll state.memory (Transfer.storeWrites (readByte other state)
          state.index.toNat last state.registers) := by
    ext i hi
    by_cases hstored : state.index.toNat ≤ i ∧ i ≤ state.index.toNat + last.val
    · have hlast : last.val < registerCount := last.isLt
      obtain ⟨lane, rfl⟩ := Nat.exists_eq_add_of_le hstored.1
      have hle : lane ≤ last.val := by omega
      have hlane : lane < registerCount := Nat.lt_of_le_of_lt hle hlast
      rw [getElem_store beyond state last hlane hle hi,
        getElem_store other state last hlane hle hi]
    · rw [getElem_store_of_not_mem beyond state last hi (by omega),
        getElem_store_of_not_mem other state last hi (by omega)]
  simp only [storeRegisters, hmemory]

theorem loadRegisters_congr (beyond other : Overrun) (last : Nibble)
    (h : ∀ lane ≤ last.val, state.index.toNat + lane < memorySize) :
    loadRegisters beyond last state = loadRegisters other last state := by
  have hload :
      Transfer.load (readByte beyond state) state.index.toNat last state.registers =
        Transfer.load (readByte other state) state.index.toNat last state.registers := by
    ext lane hlane
    rw [getElem_load, getElem_load]
    split
    case isTrue hle =>
      have hlt := h lane hle
      rw [readByte_of_lt beyond state hlt, readByte_of_lt other state hlt]
    case isFalse => rfl
  simp only [loadRegisters, hload]

/-- An instruction of which everything that it reaches exists does the same whatever
lies beyond the end of memory and of the call stack. -/
theorem execute_congr (hpointer : state.stack.pointer.toNat ≤ stackSize)
    (inRange : InRange state instruction) (beyond other : Overrun) :
    execute beyond instruction state = execute other instruction state := by
  unfold execute
  cases hop : instruction.op
  case ret => exact comeBack_congr hpointer (inRange.ret hop) beyond other
  case drw =>
    simp only [drawSprite, spriteStrokes_congr inRange hop beyond other]
  case ldMemVx => exact storeRegisters_congr beyond other _
  case ldVxMem =>
    apply loadRegisters_congr beyond other
    intro lane hlane
    apply inRange.memory
    simp only [State.reach, hop, List.mem_range'_1]
    omega
  all_goals rfl

/-! ### Dropped writes -/

/-- A write to a byte that the instruction does not reach belongs to a masked lane and
puts back what that lane has read. -/
theorem put_back_of_mem_memoryWrites (beyond : Overrun) {entry : Nat × UInt8}
    (hmem : entry ∈ memoryWrites beyond instruction state)
    (hmasked : entry.1 ∉ state.reach instruction) :
    entry.2 = readByte beyond state entry.1 := by
  unfold memoryWrites at hmem
  cases hop : instruction.op
  case ldB =>
    -- All three digits are reached.
    simp only [hop, Transfer.digitWrites] at hmem
    obtain ⟨lane, hlane, rfl⟩ := Transfer.mem_writes_iff.mp hmem
    simp only [State.reach, hop, List.mem_range'_1] at hmasked
    omega
  case ldMemVx =>
    simp only [hop, Transfer.storeWrites] at hmem
    obtain ⟨lane, hlane, rfl⟩ := Transfer.mem_writes_iff.mp hmem
    simp only [State.reach, hop, List.mem_range'_1] at hmasked
    have hlast : ¬lane ≤ instruction.x.val := by omega
    simp only [getElem_blend, if_neg hlast, getElem_gather]
  all_goals simp [hop] at hmem

/-- A call or a return that finds its slot writes no other. -/
theorem slot_lt_of_mem_slotWrites (hpointer : state.stack.pointer.toNat ≤ stackSize)
    (inRange : InRange state instruction) {entry : Nat × UInt16}
    (hmem : entry ∈ slotWrites instruction state) : entry.1 < stackSize := by
  unfold slotWrites at hmem
  cases hop : instruction.op
  case call =>
    simp only [hop, List.mem_singleton] at hmem
    rw [hmem]
    exact inRange.call hop
  case ret =>
    simp only [hop, List.mem_singleton] at hmem
    rw [hmem]
    exact CallStack.toNat_pred_lt hpointer (inRange.ret hop)
  all_goals simp [hop] at hmem

/-! ### Guards and execution together -/

/-- Both guards let a word with an operation pass exactly if everything that it reaches
exists, and a refusal for memory's sake names the highest byte that it would have
reached.  What passes has the same outcome whatever lies beyond the end, and its cost is
that of its operation; all that it writes to memory outside its reach, and so all that
is dropped, puts back what was read there; and it writes no slot that does not exist. -/
theorem guards_exact {state : State} {word : UInt16} {instruction : Instruction}
    (hpointer : state.stack.pointer.toNat ≤ stackSize)
    (hdecode : decode word.toNat = .ok instruction) :
    let decoded := Decode.Table.decode word.toUInt32.toInt32
    let verdict := Frame.verdict (Frame.checks state decoded.1 decoded.2)
    (state.check instruction = .ok () ↔ InRange state instruction) ∧
    (∀ address pc, state.check instruction = .error (.memoryOutOfBounds address pc) →
      pc = state.pc.toNat ∧ state.HighestReached instruction address) ∧
    (state.pc.toNat ≤ maxFetchAddress →
      (verdict.1 = .none ↔ InRange state instruction) ∧
      (verdict.1 = .memoryOutOfBounds →
        state.HighestReached instruction verdict.2.toInt)) ∧
    (state.check instruction = .ok () → ∀ beyond : Overrun,
      (∀ other, execute beyond instruction state = execute other instruction state) ∧
      (execute beyond instruction state).memory =
        Bank.writeAll state.memory (memoryWrites beyond instruction state) ∧
      (∀ entry ∈ memoryWrites beyond instruction state,
        (memorySize ≤ entry.1 → entry.1 ∉ state.reach instruction) ∧
        (entry.1 ∉ state.reach instruction → entry.2 = readByte beyond state entry.1)) ∧
      (execute beyond instruction state).stack.slots =
        Bank.writeAll state.stack.slots (slotWrites instruction state) ∧
      ∀ entry ∈ slotWrites instruction state, entry.1 < stackSize) := by
  intro decoded verdict
  have hdecoded : decoded = (some instruction.op, instruction.toOperands) :=
    State.table_of_decode hdecode
  refine ⟨State.check_eq_ok_iff, fun _ _ => State.check_eq_memoryOutOfBounds, ?_, ?_⟩
  · intro hpc
    simp only [verdict, hdecoded]
    exact ⟨State.verdict_eq_none_iff hpc, State.verdict_eq_memoryOutOfBounds hpc⟩
  · intro hcheck beyond
    have inRange := State.check_eq_ok_iff.mp hcheck
    refine ⟨execute_congr hpointer inRange beyond, memory_execute beyond instruction state, ?_,
      slots_execute beyond instruction state, ?_⟩
    · intro entry hmem
      refine ⟨?_, put_back_of_mem_memoryWrites beyond hmem⟩
      intro hpast hreached
      exact absurd (inRange.memory entry.1 hreached) (Nat.not_lt.mpr hpast)
    · intro entry hmem
      exact slot_lt_of_mem_slotWrites hpointer inRange hmem

/-- Six registers fit into the last six bytes of memory, and storing them there does not
depend on the ten lanes beyond. -/
theorem guards_exact_at_end :
    let state := { State.fresh ⟨0, 0⟩ with index := 0xFFA }
    let instruction : Instruction :=
      { raw := 0xF555, x := 5, y := 5, n := 5, nn := 0x55, nnn := 0x555, op := .ldMemVx }
    state.stack.pointer.toNat ≤ stackSize ∧
      decode (0xF555 : UInt16).toNat = .ok instruction ∧
      InRange state instruction ∧
      ∀ beyond other,
        execute beyond instruction state = execute other instruction state := by
  intro state instruction
  have hpointer : state.stack.pointer.toNat ≤ stackSize := by decide
  have hdecode : decode (0xF555 : UInt16).toNat = .ok instruction := by decide
  have hcheck : state.check instruction = .ok () := by decide
  have hexact := guards_exact hpointer hdecode
  exact ⟨hpointer, hdecode, hexact.1.mp hcheck, fun beyond =>
    (hexact.2.2.2 hcheck beyond).1⟩

end Execute

end Chip8
