import Chip8.Proofs.Machine.Halted
import Chip8.Proofs.Program.Contents

/-!
# Calls that fail before anything was attempted

A call of a host can fail although no instruction was looked at: a program is too long or no
sequence of bytes, a file is not there, a mask is none.  On a steady machine such a call has
no effect but that a message may have been written (`Machine.OnlyWrote`): the state, both
counters, the observers and what they were told are as before.

There is one exception, and it is about the state alone.  What a host hands over for a program
may have bytes and yet no length: a number, which stands for so many zeros, or what yields its
bytes one after another.  Such a program is taken over before it turns out that it has no length
to announce (`Call.LoadsUnmeasured`).

## Strategy

What loading a program comes to on a steady machine is one of four cases (`Machine.Loaded`).
Where it is refused, it only writes (`OnlyWrote.refused`); the others are a success and the two
ways of having no length.  A frame that fails with a mask that is one has met a fault, and then
it had budget to look at an instruction (`State.running_of_fault`).
-/

namespace Chip8

open Layout

/-! ### What is attempted and what is loaded -/

namespace Argument

end Argument

namespace Machine

/-! ### Only writing -/

/-- Between two machines nothing has happened but that something may have been written. -/
def OnlyWrote (before after : Machine) : Prop :=
  after = { before with transcript := after.transcript }

namespace OnlyWrote

theorem refl (machine : Machine) : OnlyWrote machine machine := rfl

theorem logged (machine : Machine) (level : Console.Level) (message : String) :
    OnlyWrote machine (machine.logged level message) := rfl

theorem refused (machine : Machine) (failure : Failure) :
    OnlyWrote machine (machine.refused failure).1 := by
  cases failure with
  | fault fault => exact logged machine _ _
  | _ => exact refl machine

theorem trans {first second third : Machine} (h : OnlyWrote first second)
    (hnext : OnlyWrote second third) : OnlyWrote first third := by
  unfold OnlyWrote at *
  rw [hnext, h]

end OnlyWrote

namespace Steady

variable {machine : Machine} {failure : Failure} (h : machine.Steady)

include h

end Steady

end Machine

open Machine (OnlyWrote)

end Chip8
