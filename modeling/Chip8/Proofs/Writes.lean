import Mathlib.Data.List.FinRange
import Chip8.Transfer

/-!
# Several writes at once

What a bank holds after several writes, cell by cell.  A cell that no write names
stays as it was; where all writes go to different addresses, every write inside the
bank lands.  Both are by induction along the writes, which happen one after
another.

A list of cells that is laid over a bank is read back cell by cell (`getElem_lay`), and a
second one over the first leaves of that what sticks out (`lay_lay`).

The transfers of registers write consecutive addresses, one for each lane
(`mem_writes_iff`), which are all different.
-/

namespace Chip8

namespace Bank

variable {Cell : Type} {size : Nat}

/-- A cell that no write names stays as it was. -/
theorem getElem_writeAll_of_not_mem (bank : Vector Cell size) (writes : List (Nat × Cell))
    {i : Nat} (hi : i < size) (h : ∀ entry ∈ writes, entry.1 ≠ i) :
    (writeAll bank writes)[i] = bank[i] := by
  induction writes generalizing bank with
  | nil => rfl
  | cons entry writes ih =>
      have hother : entry.1 ≠ i := h entry List.mem_cons_self
      have hrest := ih (write bank entry.1 entry.2)
        fun other hmem => h other (List.mem_cons_of_mem _ hmem)
      rw [writeAll_cons, hrest, getElem_write, if_neg hother]

/-- Of writes to different addresses every one inside the bank lands. -/
theorem getElem_writeAll_of_mem (bank : Vector Cell size) {writes : List (Nat × Cell)}
    (hdistinct : writes.Pairwise fun first second => first.1 ≠ second.1) {i : Nat} {cell : Cell}
    (hi : i < size) (h : (i, cell) ∈ writes) : (writeAll bank writes)[i] = cell := by
  induction writes generalizing bank with
  | nil => simp at h
  | cons entry writes ih =>
      rw [List.pairwise_cons] at hdistinct
      rw [writeAll_cons]
      rcases List.mem_cons.mp h with hfirst | hrest
      · -- What is written first is not overwritten.
        have hkept : ∀ other ∈ writes, other.1 ≠ i := by
          intro other hmem
          have hne := hdistinct.1 other hmem
          rw [← hfirst] at hne
          exact hne.symm
        rw [getElem_writeAll_of_not_mem _ _ hi hkept, getElem_write, ← hfirst, if_pos rfl]
      · exact ih _ hdistinct.2 hrest

/-- A bank with some cells laid over it, from an address on. -/
def lay (bank : Vector Cell size) (origin : Nat) (cells : List Cell) : Vector Cell size :=
  writeAll bank (cells.mapIdx fun place cell => (origin + place, cell))

/-- The cell at an address once some cells lie over a bank. -/
def overlaid (bank : Vector Cell size) (origin : Nat) (cells : List Cell) (i : Nat)
    (hi : i < size) : Cell :=
  if h : origin ≤ i ∧ i < origin + cells.length then cells[i - origin] else bank[i]

theorem getElem_lay (bank : Vector Cell size) (origin : Nat) (cells : List Cell) {i : Nat}
    (hi : i < size) : (lay bank origin cells)[i] = overlaid bank origin cells i hi := by
  unfold overlaid
  split
  case isTrue h =>
    have hplace : i - origin < cells.length := by omega
    apply getElem_writeAll_of_mem
    · rw [List.pairwise_iff_getElem]
      intro first second hfirst hsecond hlt
      simp only [List.getElem_mapIdx]
      omega
    · rw [List.mem_mapIdx]
      refine ⟨i - origin, hplace, ?_⟩
      rw [Nat.add_sub_cancel' h.1]
  case isFalse h =>
    apply getElem_writeAll_of_not_mem
    intro entry hmem
    obtain ⟨place, hplace, rfl⟩ := List.mem_mapIdx.mp hmem
    change origin + place ≠ i
    omega

theorem overlaid_of_lt (bank : Vector Cell size) {origin : Nat} (cells : List Cell) {i : Nat}
    (hi : i < size) (h : i < origin) : overlaid bank origin cells i hi = bank[i] :=
  dif_neg fun hinside => Nat.not_lt.mpr hinside.1 h

theorem overlaid_of_getElem? (bank : Vector Cell size) {origin : Nat} {cells : List Cell}
    {i place : Nat} {cell : Cell} (hi : i < size) (hplace : i = origin + place)
    (h : cells[place]? = some cell) : overlaid bank origin cells i hi = cell := by
  obtain ⟨hlt, hcell⟩ := List.getElem?_eq_some_iff.mp h
  subst hplace
  rw [overlaid, dif_pos ⟨Nat.le_add_right _ _, Nat.add_lt_add_left hlt _⟩]
  simp only [Nat.add_sub_cancel_left, hcell]

/-- Of cells under other ones only what sticks out is left. -/
theorem lay_lay (bank : Vector Cell size) (origin : Nat) (cells later : List Cell) :
    lay (lay bank origin cells) origin later =
      lay bank origin (later ++ cells.drop later.length) := by
  apply Vector.ext
  intro i hi
  simp only [getElem_lay, overlaid, List.length_append, List.length_drop]
  by_cases hlater : origin ≤ i ∧ i < origin + later.length
  · have hplace : i - origin < later.length := by omega
    rw [dif_pos hlater, dif_pos ⟨hlater.1, by omega⟩, List.getElem_append_left hplace]
  · rw [dif_neg hlater]
    by_cases hinside : origin ≤ i ∧ i < origin + cells.length
    · rw [dif_pos hinside, dif_pos ⟨hinside.1, by omega⟩,
        List.getElem_append_right (by omega), List.getElem_drop]
      congr 1
      omega
    · rw [dif_neg hinside, dif_neg (by omega)]

end Bank

namespace Transfer

variable {count : Nat}

theorem mem_writes_iff {origin : Nat} {bytes : Vector UInt8 count} {entry : Nat × UInt8} :
    entry ∈ writes origin bytes ↔
      ∃ (lane : Nat) (hlane : lane < count), entry = (origin + lane, bytes[lane]) := by
  simp only [writes, List.mem_map, List.mem_finRange, true_and]
  constructor
  · rintro ⟨lane, rfl⟩
    exact ⟨lane.val, lane.isLt, rfl⟩
  · rintro ⟨lane, hlane, rfl⟩
    exact ⟨⟨lane, hlane⟩, rfl⟩

theorem pairwise_writes (origin : Nat) (bytes : Vector UInt8 count) :
    (writes origin bytes).Pairwise fun first second => first.1 ≠ second.1 := by
  have hlanes : (List.finRange count).Pairwise (· ≠ ·) := List.nodup_finRange count
  rw [writes, List.pairwise_map]
  refine hlanes.imp fun hne h => hne (Fin.ext ?_)
  exact Nat.add_left_cancel h

theorem getElem_writeAll_writes {size : Nat} (bank : Vector UInt8 size) (origin : Nat)
    (bytes : Vector UInt8 count) {lane : Nat} (hlane : lane < count) (h : origin + lane < size) :
    (Bank.writeAll bank (writes origin bytes))[origin + lane] = bytes[lane] :=
  Bank.getElem_writeAll_of_mem bank (pairwise_writes origin bytes) h
    (mem_writes_iff.mpr ⟨lane, hlane, rfl⟩)

theorem getElem_writeAll_writes_of_not_mem {size : Nat} (bank : Vector UInt8 size) (origin : Nat)
    (bytes : Vector UInt8 count) {i : Nat} (hi : i < size)
    (h : i < origin ∨ origin + count ≤ i) :
    (Bank.writeAll bank (writes origin bytes))[i] = bank[i] := by
  apply Bank.getElem_writeAll_of_not_mem bank _ hi
  intro entry hmem
  obtain ⟨lane, hlane, rfl⟩ := mem_writes_iff.mp hmem
  change origin + lane ≠ i
  omega

end Transfer

end Chip8
