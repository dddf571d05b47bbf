/-!
# Banks of cells

Memory and the call stack are banks: a fixed number of cells under addresses
from zero.  Execution does not check addresses.  A write past the end of a bank
is dropped.  What a read past the end yields is left to the caller, who passes
it as a function of the address; that keeps visible which results depend on it.
-/

namespace Chip8.Bank

variable {Cell : Type} {size : Nat}

/-- The cell at an address, or what lies beyond the end of the bank. -/
def read (bank : Vector Cell size) (beyond : Nat → Cell) (address : Nat) : Cell :=
  if h : address < size then bank[address] else beyond address

/-- Replace the cell at an address, if there is one. -/
def write (bank : Vector Cell size) (address : Nat) (cell : Cell) : Vector Cell size :=
  if h : address < size then bank.set address cell else bank

/-- Replace several cells one after another. -/
def writeAll (bank : Vector Cell size) (writes : List (Nat × Cell)) : Vector Cell size :=
  writes.foldl (fun bank entry => write bank entry.1 entry.2) bank

theorem read_of_lt (bank : Vector Cell size) (beyond : Nat → Cell) {address : Nat}
    (h : address < size) : read bank beyond address = bank[address] :=
  dif_pos h

theorem getElem_write (bank : Vector Cell size) (address : Nat) (cell : Cell) (i : Nat)
    (hi : i < size) :
    (write bank address cell)[i] = if address = i then cell else bank[i] := by
  unfold write
  split
  · rw [Vector.getElem_set]
  · rename_i h
    rw [if_neg (by omega)]

@[simp] theorem writeAll_nil (bank : Vector Cell size) : writeAll bank [] = bank := rfl

@[simp] theorem writeAll_cons (bank : Vector Cell size) (entry : Nat × Cell)
    (writes : List (Nat × Cell)) :
    writeAll bank (entry :: writes) = writeAll (write bank entry.1 entry.2) writes := rfl

end Chip8.Bank
