import Chip8.Random
import Chip8.Screen
import Chip8.Stack

/-!
# The state of the machine

Everything an instruction can read or change.  All quantities keep their width:
registers, timers and the stack pointer wrap at 8 bits, the index, the program
counter and the keypad at 16, and the time budget is a signed number of 32 bits.
-/

namespace Chip8

open Layout

/-- Memory: 4096 bytes. -/
abbrev Memory := Vector UInt8 memorySize

/-- The general registers. -/
abbrev Registers := Vector UInt8 registerCount

/-- The state of the machine. -/
structure State where
  /-- The key of the random stream. -/
  random : Pair
  memory : Memory
  /-- The address of the next instruction. -/
  pc : UInt16
  screen : Screen
  stack : CallStack
  /-- Counts down once a frame. -/
  delayTimer : UInt8
  /-- Counts down once a frame and sounds the buzzer. -/
  soundTimer : UInt8
  /-- One bit for every held key, key zero in the lowest. -/
  keypad : UInt16
  registers : Registers
  /-- The register through which memory is reached. -/
  index : UInt16
  /-- Whether the buzzer sounds in this frame. -/
  tone : Bool
  /-- Microseconds left in this frame; negative after an overrun. -/
  budget : Int32
  deriving DecidableEq

namespace State

/-- Memory with the font and nothing else. -/
def blankMemory : Memory :=
  Bank.writeAll (Vector.replicate memorySize 0)
    (font.mapIdx fun i byte => (fontStart + i, byte))

/-- The state before any program is loaded. -/
def fresh (random : Pair) : State where
  random
  memory := blankMemory
  pc := 0x200
  screen := .dark
  stack := .empty
  delayTimer := 0
  soundTimer := 0
  keypad := 0
  registers := Vector.replicate registerCount 0
  index := 0
  tone := false
  budget := 0

/-- The fresh state of a seed. -/
def ofSeed (seed : UInt64) : State := fresh (Random.keyOfSeed seed)

/-- The fresh state of a seed that a host hands over. -/
def create (seed : Argument) : Except Failure State := seed.toSeed.map ofSeed

/-- The value of a register. -/
def register (state : State) (i : Fin registerCount) : UInt8 := state.registers[i]

/-- The state with one register replaced. -/
def setRegister (state : State) (i : Fin registerCount) (value : UInt8) : State :=
  { state with registers := state.registers.set i value }

theorem register_setRegister (state : State) (i j : Fin registerCount) (value : UInt8) :
    (state.setRegister i value).register j = if i = j then value else state.register j := by
  simp only [register, setRegister, Fin.getElem_fin, Vector.getElem_set, Fin.ext_iff]

/-- The state with the flag register replaced. -/
def setFlag (state : State) (value : UInt8) : State := state.setRegister flagRegister value

/-- The state moved past a number of instruction words. -/
def advance (state : State) (words : UInt16) : State :=
  { state with pc := state.pc + 2 * words }

@[simp] theorem register_advance (state : State) (words : UInt16) (i : Fin registerCount) :
    (state.advance words).register i = state.register i := rfl

end State

end Chip8
