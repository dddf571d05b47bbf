import Chip8.Arithmetic
import Chip8.Instruction
import Chip8.State

/-!
# Transfers between registers and memory

Three instructions move bytes between registers and the memory under the index.
The two that move a whole run of registers always handle all sixteen lanes: they
gather sixteen bytes of memory and let a mask decide, lane by lane, whether the
register or the byte goes through.  A masked lane puts back what was there.
-/

namespace Chip8.Transfer

open Layout

/-- The sixteen bytes of memory from an address on. -/
def gather (read : Nat → UInt8) (origin : Nat) : Registers :=
  Vector.ofFn fun lane => read (origin + lane.val)

/-- The first vector in the lanes up to `last` and the second one above. -/
def blend (last : Nibble) (chosen other : Registers) : Registers :=
  Vector.ofFn fun lane => if lane.val ≤ last.val then chosen.get lane else other.get lane

/-- The bytes of a vector at consecutive addresses. -/
def writes {count : Nat} (origin : Nat) (bytes : Vector UInt8 count) : List (Nat × UInt8) :=
  (List.finRange count).map fun lane => (origin + lane.val, bytes[lane])

/-- What storing the three digits of a byte writes. -/
def digitWrites (origin : Nat) (value : UInt8) : List (Nat × UInt8) :=
  writes origin (Arithmetic.digits value)

/-- What storing the registers up to `last` writes. -/
def storeWrites (read : Nat → UInt8) (origin : Nat) (last : Nibble) (registers : Registers) :
    List (Nat × UInt8) :=
  writes origin (blend last registers (gather read origin))

/-- The registers after loading those up to `last`. -/
def load (read : Nat → UInt8) (origin : Nat) (last : Nibble) (registers : Registers) :
    Registers :=
  blend last (gather read origin) registers

end Chip8.Transfer
