import Chip8.Argument
import Chip8.Failure
import Chip8.State
import Chip8.Text.Letter

/-!
# Programs

A program is a sequence of bytes that is copied into memory at its start
address, if it fits there.  Nothing else about it is looked at, and nothing else
of the state changes.

A host may hand over anything for a program.  All that is asked of it are its bytes
and its length, and each answer may fail, so a `Program` consists of the answers.
-/

namespace Chip8

open Layout

/-- Copy a program into memory. -/
def State.load (state : State) (program : List UInt8) : Except Fault State :=
  if maxProgramSize < program.length then
    .error (.romTooLarge program.length maxProgramSize)
  else
    .ok { state with
      memory := Bank.writeAll state.memory
        (program.mapIdx fun i byte => (programStart + i, byte)) }

/-- What a host hands over for a program, by its answers when it is asked for its bytes and
then for its length, once to log it and once to tell it.  The answers need not agree: what
yields its bytes one after another, for instance, has no length. -/
structure Program where
  bytes : Except Failure (List UInt8)
  loggedLength : Except Failure Nat
  toldLength : Except Failure Nat

/-- A sequence of bytes, which has as many of them as its length says. -/
def Program.ofBytes (bytes : List UInt8) : Program :=
  ⟨.ok bytes, .ok bytes.length, .ok bytes.length⟩

/-- Load what a host hands over for a program. -/
def State.loadProgram (state : State) (program : Program) : Except Failure State := do
  (state.load (← program.bytes)).mapError .fault

namespace Argument

/-- The byte that an item of a byte sequence stands for. -/
def toByte (argument : Argument) : Except Failure UInt8 :=
  match argument.integer? with
  | none => .error .notBytes
  | some value =>
      if 0 ≤ value ∧ value < 256 then .ok (UInt8.ofNat value.toNat) else .error .byteOutOfRange

/-- A run of zeros of a given length, where there is room for so many bytes.  The length, and
that of the run with what is kept beside it, has to fit in 64 bits.  A run that is too long for
program memory fails before it is made. -/
def zeros (room : Nat) (length : Int) : Except Failure (List UInt8) :=
  if length < -0x8000000000000000 then .error .lengthTooLarge
  else if length < 0 then .error .negativeLength
  else if 0x7fffffffffffffde < length then .error .lengthTooLarge
  else if (room : Int) < length then .error .outOfMemory
  else if (maxProgramSize : Int) < length then
    .error (.fault (.romTooLarge length maxProgramSize))
  else .ok (List.replicate length.toNat 0)

/-- The bytes that an argument stands for.  An integer is a run of zeros, a list holds bytes,
and a table without entries is empty. -/
def toBytes (room : Nat) : Argument → Except Failure (List UInt8)
  | truth value => zeros room (if value then 1 else 0)
  | integer value => zeros room value
  | list items => items.mapM toByte
  | table [] => .ok []
  | nothing | real _ | text _ | table _ => .error .notBytes

/-- How many letters, items or entries an argument has. -/
def length : Argument → Except Failure Nat
  | text value => .ok (Text.letters value).length
  | list items => .ok items.length
  | table entries => .ok entries.length
  | nothing | truth _ | integer _ | real _ => .error .noLength

/-- An argument handed over for a program, where there is room for so many bytes. -/
def toProgram (room : Nat) (argument : Argument) : Program :=
  ⟨argument.toBytes room, argument.length, argument.length⟩

end Argument

end Chip8
