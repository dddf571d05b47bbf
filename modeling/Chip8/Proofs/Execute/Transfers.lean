import Chip8.Proofs.Decode.Word
import Chip8.Proofs.Execute.Locality

/-!
# Transfers are exact

Three instructions move bytes between registers and the memory under the index: `FX55`
stores registers, `FX65` loads them and `FX33` stores the three decimal digits of one.
The first two always handle all sixteen lanes, and near the end of memory several of these
lie past it.  As long as the last byte that an instruction is meant to reach exists, it
moves exactly the bytes that it is meant to, and every other byte and register stays.

So a load takes back what a store has put there, whatever happened to the registers in
between, and a store after a load puts back what was there.
-/

namespace Chip8

open Layout

namespace Arithmetic

/-- The three digits of a byte are digits, and those of its value. -/
theorem digits_exact (a : UInt8) :
    (digits a)[0].toNat < 10 ∧ (digits a)[1].toNat < 10 ∧ (digits a)[2].toNat < 10 ∧
      100 * (digits a)[0].toNat + 10 * (digits a)[1].toNat + (digits a)[2].toNat =
        a.toNat := by
  have ha := a.toNat_lt
  have hhundreds : (digits a)[0].toNat = a.toNat / 100 := UInt8.toNat_div a 100
  have htens : (digits a)[1].toNat = a.toNat / 10 % 10 := by
    rw [show (digits a)[1] = a / 10 % 10 from rfl, UInt8.toNat_mod, UInt8.toNat_div]
    rfl
  have hones : (digits a)[2].toNat = a.toNat % 10 := UInt8.toNat_mod a 10
  omega

end Arithmetic

namespace Execute

/-! ### What is moved -/

/-- Of one state another has been made by storing so many bytes under the index. -/
structure StoresOnly (count : Nat) (before after : State) : Prop where
  state : after = { before with memory := after.memory, pc := before.pc + 2 }
  memory : ∀ (address : Nat) (h : address < memorySize),
    address < before.index.toNat ∨ before.index.toNat + count ≤ address →
      after.memory[address] = before.memory[address]

/-- Of one state another has been made by loading so many registers. -/
structure LoadsOnly (count : Nat) (before after : State) : Prop where
  state : after = { before with registers := after.registers, pc := before.pc + 2 }
  register : ∀ i : Fin registerCount, count ≤ i.val → after.register i = before.register i

/-- So many bytes from an address on are what the registers of a state hold. -/
def Holds (count : Nat) (memory : Memory) (address : Nat) (state : State) : Prop :=
  ∀ i : Fin registerCount, i.val < count →
    ∃ h : address + i.val < memorySize, memory[address + i.val] = state.register i

/-- The three bytes from an address on are the decimal digits of a number. -/
structure DigitsAt (memory : Memory) (address number : Nat) : Prop where
  inside : address + 2 < memorySize
  hundreds : memory[address].toNat < 10
  tens : memory[address + 1].toNat < 10
  ones : memory[address + 2].toNat < 10
  number : 100 * memory[address].toNat + 10 * memory[address + 1].toNat +
    memory[address + 2].toNat = number

variable {state : State} {beyond : Overrun} {last : Nibble}

theorem storesOnly_storeRegisters :
    StoresOnly (last.val + 1) state (storeRegisters beyond last state) where
  state := rfl
  memory := fun _ h houtside => getElem_store_of_not_mem beyond state last h (by omega)

theorem holds_storeRegisters (beyond : Overrun) (h : state.index.toNat + last.val < memorySize) :
    Holds (last.val + 1) (storeRegisters beyond last state).memory state.index.toNat state :=
  fun i hi => ⟨by omega, getElem_store beyond state last i.isLt (by omega) (by omega)⟩

theorem loadsOnly_loadRegisters :
    LoadsOnly (last.val + 1) state (loadRegisters beyond last state) where
  state := rfl
  register := fun i hi => by rw [register_loadRegisters, if_neg (by omega)]

theorem holds_loadRegisters (beyond : Overrun) (h : state.index.toNat + last.val < memorySize) :
    Holds (last.val + 1) state.memory state.index.toNat (loadRegisters beyond last state) := by
  intro i hi
  have hlt : state.index.toNat + i.val < memorySize := by omega
  refine ⟨hlt, ?_⟩
  rw [register_loadRegisters, if_pos (by omega), readByte_of_lt beyond state hlt]

theorem storesOnly_storeDigits (value : UInt8) :
    StoresOnly 3 state (storeDigits value state) where
  state := rfl
  memory := fun _ h houtside =>
    Transfer.getElem_writeAll_writes_of_not_mem _ _ _ h houtside

theorem digitsAt_storeDigits (value : UInt8) (h : state.index.toNat + 2 < memorySize) :
    DigitsAt (storeDigits value state).memory state.index.toNat value.toNat := by
  have hbyte : ∀ (lane : Nat) (hlane : lane < 3) (hlt : state.index.toNat + lane < memorySize),
      (storeDigits value state).memory[state.index.toNat + lane] =
        (Arithmetic.digits value)[lane] :=
    fun lane hlane hlt => Transfer.getElem_writeAll_writes _ _ _ hlane hlt
  obtain ⟨hhundreds, htens, hones, hnumber⟩ := Arithmetic.digits_exact value
  rw [← hbyte 0 (by decide) (by omega)] at hhundreds hnumber
  rw [← hbyte 1 (by decide) (by omega)] at htens hnumber
  rw [← hbyte 2 (by decide) h] at hones hnumber
  exact ⟨h, hhundreds, htens, hones, hnumber⟩

/-! ### There and back -/

/-- What a load takes from where a state was stored is what the state held. -/
theorem register_load_of_holds {stored : State}
    (hholds : Holds (last.val + 1) state.memory state.index.toNat stored)
    (h : state.index.toNat + last.val < memorySize) (i : Fin registerCount)
    (hi : i.val < last.val + 1) :
    (loadRegisters beyond last state).register i = stored.register i := by
  obtain ⟨_, hloaded⟩ := holds_loadRegisters beyond h i hi
  obtain ⟨_, hstored⟩ := hholds i hi
  rw [← hloaded, hstored]

/-- To store what memory holds already does not change it. -/
theorem memory_store_of_holds (hholds : Holds (last.val + 1) state.memory state.index.toNat state)
    (h : state.index.toNat + last.val < memorySize) :
    (storeRegisters beyond last state).memory = state.memory := by
  have honly : StoresOnly (last.val + 1) state (storeRegisters beyond last state) :=
    storesOnly_storeRegisters
  apply Vector.ext
  intro address haddress
  by_cases hinside : state.index.toNat ≤ address ∧ address ≤ state.index.toNat + last.val
  · have hlast := last.isLt
    obtain ⟨lane, rfl⟩ := Nat.exists_eq_add_of_le hinside.1
    have hlane : lane < last.val + 1 := by omega
    let i : Fin registerCount := ⟨lane, by simp only [registerCount]; omega⟩
    obtain ⟨_, hstored⟩ := holds_storeRegisters beyond h i hlane
    obtain ⟨_, hheld⟩ := hholds i hlane
    exact hstored.trans hheld.symm
  · exact honly.memory address haddress (by omega)

/-- A store puts back what a load has taken. -/
theorem memory_store_loadRegisters (other : Overrun)
    (h : state.index.toNat + last.val < memorySize) :
    (storeRegisters other last (loadRegisters beyond last state)).memory = state.memory := by
  have hmemory : (loadRegisters beyond last state).memory = state.memory := rfl
  have hindex : (loadRegisters beyond last state).index = state.index := rfl
  have hholds := holds_loadRegisters beyond h
  rw [← hmemory, ← hindex] at hholds
  rw [← hindex] at h
  rw [memory_store_of_holds hholds h, hmemory]

/-! ### The check -/

/-- An instruction that reaches memory and is neither a call nor a return passes the check
if the last byte that it reaches exists. -/
theorem check_eq_ok_iff_of_span {instruction : Instruction} {last : Nat}
    (hspan : State.spanOf instruction = last + 1)
    (hstack : instruction.op ≠ .call ∧ instruction.op ≠ .ret) :
    state.check instruction = .ok () ↔ state.index.toNat + last < memorySize := by
  have hpassed : Guard.checkStack state instruction.op = .ok () :=
    State.checkStack_eq_ok_iff.mpr
      ⟨fun hcall => absurd hcall hstack.1, fun hret => absurd hret hstack.2⟩
  have hcheck : state.check instruction = Guard.checkSpan state (last + 1) := by
    rw [State.check, Guard.check, hpassed, ← hspan]
    rfl
  rw [hcheck, State.checkSpan_eq_ok_iff]
  omega

end Execute

open Execute Decode

/-- Whatever the state holds, `FX55`, `FX65` and `FX33` pass the check exactly if the last
byte that they reach exists, and then they move what they are meant to.  `FX55` stores the
registers up to `VX` under the index and changes no other byte and no register; `FX65`
loads them from there and changes no other register and no byte; `FX33` stores the three
digits of `VX` and changes no other byte and no register.

After `FX55`, from any state that has its memory and the same index, `FX65` takes back
`V0` to `VX`; after `FX65`, `FX55` leaves memory as it was. -/
theorem transfers_exact (state : State) (x : Nibble) :
    let address := state.index.toNat
    let store := instructionOf .ldMemVx 0xF x 0x5 0x5
    let load := instructionOf .ldVxMem 0xF x 0x6 0x5
    let digits := instructionOf .ldB 0xF x 0x3 0x3
    let stored := state.execute store
    let loaded := state.execute load
    let written := state.execute digits
    (decode (wordOf 0xF x 0x5 0x5) = .ok store ∧ decode (wordOf 0xF x 0x6 0x5) = .ok load ∧
      decode (wordOf 0xF x 0x3 0x3) = .ok digits) ∧
    ((state.check store = .ok () ↔ address + x.val ≤ 0xFFF) ∧
      (state.check load = .ok () ↔ address + x.val ≤ 0xFFF) ∧
      (state.check digits = .ok () ↔ address + 2 ≤ 0xFFF)) ∧
    (state.check store = .ok () →
      StoresOnly (x.val + 1) state stored ∧ Holds (x.val + 1) stored.memory address state) ∧
    (state.check load = .ok () →
      LoadsOnly (x.val + 1) state loaded ∧ Holds (x.val + 1) state.memory address loaded) ∧
    (state.check digits = .ok () →
      StoresOnly 3 state written ∧
        DigitsAt written.memory address (state.register x).toNat) ∧
    (state.check store = .ok () → ∀ other : State,
      other.memory = stored.memory → other.index = state.index →
        other.check load = .ok () ∧
          ∀ i : Fin registerCount, i.val ≤ x.val →
            (other.execute load).register i = state.register i) ∧
    (state.check load = .ok () →
      loaded.check store = .ok () ∧ (loaded.execute store).memory = state.memory) := by
  intro address store load digits stored loaded written
  have hcheck : ∀ other : State,
      (other.check store = .ok () ↔ other.index.toNat + x.val < memorySize) ∧
        (other.check load = .ok () ↔ other.index.toNat + x.val < memorySize) := fun other =>
    ⟨check_eq_ok_iff_of_span rfl (by simp [store, instructionOf]),
      check_eq_ok_iff_of_span rfl (by simp [load, instructionOf])⟩
  have hdigits : state.check digits = .ok () ↔ state.index.toNat + 2 < memorySize :=
    check_eq_ok_iff_of_span rfl (by simp [digits, instructionOf])
  refine ⟨⟨?_, ?_, ?_⟩, ⟨?_, ?_, ?_⟩, fun h => ?_, fun h => ?_, fun h => ?_, ?_, fun h => ?_⟩
  · exact decode_wordOf (some 0x5) (some 0x5) rfl (by decide) (by simp)
  · exact decode_wordOf (some 0x6) (some 0x5) rfl (by decide) (by simp)
  · exact decode_wordOf (some 0x3) (some 0x3) rfl (by decide) (by simp)
  · exact (hcheck state).1.trans Nat.lt_succ_iff
  · exact (hcheck state).2.trans Nat.lt_succ_iff
  · exact hdigits.trans Nat.lt_succ_iff
  · exact ⟨storesOnly_storeRegisters, holds_storeRegisters _ ((hcheck state).1.mp h)⟩
  · exact ⟨loadsOnly_loadRegisters, holds_loadRegisters _ ((hcheck state).2.mp h)⟩
  · exact ⟨storesOnly_storeDigits _, digitsAt_storeDigits _ (hdigits.mp h)⟩
  · intro h other hmemory hindex
    have hlt := (hcheck state).1.mp h
    rw [← hindex] at hlt
    have hholds : Holds (x.val + 1) other.memory other.index.toNat state := by
      rw [hmemory, hindex]
      exact holds_storeRegisters _ ((hcheck state).1.mp h)
    exact ⟨(hcheck other).2.mpr hlt, fun i hi =>
      register_load_of_holds hholds hlt i (Nat.lt_succ_of_le hi)⟩
  · have hlt := (hcheck state).2.mp h
    exact ⟨(hcheck loaded).1.mpr hlt, memory_store_loadRegisters loaded.clamp hlt⟩

/-- Six registers fill the last six bytes of memory, and are taken back from there. -/
theorem transfers_exact_at_end :
    let state := { State.fresh ⟨0, 0⟩ with
      index := 0xFFA
      registers := Vector.replicate registerCount 0xAB }
    let store := instructionOf .ldMemVx 0xF 5 0x5 0x5
    let load := instructionOf .ldVxMem 0xF 5 0x6 0x5
    let digits := instructionOf .ldB 0xF 5 0x3 0x3
    let stored := state.execute store
    (state.check store = .ok () ∧ state.check load = .ok () ∧ state.check digits = .ok ()) ∧
    Holds 6 stored.memory 0xFFA state ∧
    DigitsAt (state.execute digits).memory 0xFFA 0xAB ∧
    (∀ i : Fin registerCount, i.val ≤ 5 →
      (stored.execute load).register i = state.register i) ∧
    ((state.execute load).execute store).memory = state.memory := by
  intro state store load digits stored
  obtain ⟨-, ⟨hstore, hload, hdigits⟩, hstored, -, hwritten, hback, hkept⟩ :=
    transfers_exact state 5
  have hlast : state.index.toNat + (5 : Nibble).val ≤ 0xFFF := by decide
  have hstoreCheck := hstore.mpr hlast
  have hloadCheck := hload.mpr hlast
  have hdigitsCheck := hdigits.mpr (by decide)
  exact ⟨⟨hstoreCheck, hloadCheck, hdigitsCheck⟩, (hstored hstoreCheck).2,
    (hwritten hdigitsCheck).2, (hback hstoreCheck stored rfl rfl).2, (hkept hloadCheck).2⟩

end Chip8
