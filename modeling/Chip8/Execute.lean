import Chip8.Keypad
import Chip8.Sprite
import Chip8.Transfer

/-!
# Execution

`execute` carries out one decoded instruction.  It checks nothing: whether an
instruction stays inside memory and the call stack is decided beforehand, in
`Chip8.Guard`.  What a read past the end of memory or of the stack yields is a
parameter, an `Overrun`; the machine itself runs with `State.clamp`, under which
the last cell answers for everything beyond it.

The three transfers between memory and registers always handle full-width lanes
and mask those that the instruction does not name.
-/

namespace Chip8

open Layout

/-- What reads past the end of memory and of the call stack yield. -/
structure Overrun where
  memory : Nat → UInt8
  stack : Nat → UInt16

/-- The overrun under which the last cell answers for everything beyond it. -/
def State.clamp (state : State) : Overrun where
  memory := fun _ => state.memory[memorySize - 1]
  stack := state.stack.clamp

namespace Execute

/-- A byte of memory. -/
def readByte (beyond : Overrun) (state : State) (address : Nat) : UInt8 :=
  Bank.read state.memory beyond.memory address

/-! ### Control flow -/

/-- Move on, past the next instruction too if a condition holds. -/
def skipIf (condition : Bool) (state : State) : State :=
  state.advance (if condition then 2 else 1)

/-- Continue at an address. -/
def jump (address : UInt16) (state : State) : State := { state with pc := address }

/-- Continue at an address and remember the instruction after this one. -/
def call (address : UInt16) (state : State) : State :=
  jump address { state with stack := state.stack.push (state.pc + 2) }

/-- Continue where the last call left off. -/
def comeBack (beyond : Overrun) (state : State) : State :=
  let (stack, address) := state.stack.pop beyond.stack
  { state with stack, pc := address }

/-- Put the lowest held key into a register and move on; with no key held, stay
at this instruction. -/
def awaitKey (x : Nibble) (state : State) : State :=
  match Keypad.lowestHeld? state.keypad with
  | some key => (state.setRegister x (UInt8.ofNat key.val)).advance 1
  | none => state.advance 0

/-! ### Registers -/

/-- Replace a register and move on. -/
def assign (x : Nibble) (value : UInt8) (state : State) : State :=
  (state.setRegister x value).advance 1

/-- Replace a register, then the flag register, and move on.  The flag wins where
both are the same register. -/
def assignFlagged (x : Nibble) (result : UInt8 × UInt8) (state : State) : State :=
  ((state.setRegister x result.1).setFlag result.2).advance 1

/-- Put a random byte under a mask into a register and move on. -/
def drawByte (x : Nibble) (mask : UInt8) (state : State) : State :=
  assign x (Random.draw state.random &&& mask)
    { state with random := Random.keep state.random }

/-- Replace the index and move on. -/
def pointAt (address : UInt16) (state : State) : State :=
  { state with index := address }.advance 1

/-- Where the font has the glyph of a digit. -/
def glyphAddress (digit : UInt8) : UInt16 :=
  UInt16.ofNat (fontStart + glyphSize * digit.toNat)

/-! ### Memory and screen -/

/-- Store the three digits of a byte under the index and move on. -/
def storeDigits (value : UInt8) (state : State) : State :=
  let writes := Transfer.digitWrites state.index.toNat value
  { state with memory := Bank.writeAll state.memory writes }.advance 1

/-- Store the registers up to `last` under the index and move on. -/
def storeRegisters (beyond : Overrun) (last : Nibble) (state : State) : State :=
  let writes := Transfer.storeWrites (readByte beyond state) state.index.toNat last
    state.registers
  { state with memory := Bank.writeAll state.memory writes }.advance 1

/-- Load the registers up to `last` from under the index and move on. -/
def loadRegisters (beyond : Overrun) (last : Nibble) (state : State) : State :=
  let registers := Transfer.load (readByte beyond state) state.index.toNat last
    state.registers
  { state with registers }.advance 1

/-- The strokes of the sprite under the index, at the pixel that two registers
name. -/
def spriteStrokes (beyond : Overrun) (x y height : Nibble) (state : State) : List Stroke :=
  let rows := Sprite.gather (readByte beyond state) state.index.toNat
  Sprite.strokes (Sprite.crop height rows)
    ⟨(state.register x).toNat % screenWidth, Nat.mod_lt _ (by decide)⟩
    ⟨(state.register y).toNat % screenHeight, Nat.mod_lt _ (by decide)⟩

/-- Draw the sprite under the index, report a collision and move on. -/
def drawSprite (beyond : Overrun) (x y height : Nibble) (state : State) : State :=
  let strokes := spriteStrokes beyond x y height state
  let collision := Sprite.collides strokes state.screen
  ({ state with screen := Sprite.paint strokes state.screen }.setFlag
    (Arithmetic.flag collision)).advance 1

/-! ### What stays -/

@[simp] theorem budget_awaitKey (x : Nibble) (state : State) :
    (awaitKey x state).budget = state.budget := by
  unfold awaitKey
  cases Keypad.lowestHeld? state.keypad <;> rfl

@[simp] theorem budget_drawSprite (beyond : Overrun) (x y height : Nibble) (state : State) :
    (drawSprite beyond x y height state).budget = state.budget := by
  simp only [drawSprite, State.setFlag, State.setRegister, State.advance]

end Execute

open Execute in
/-- Carry out one instruction. -/
def execute (beyond : Overrun) (instruction : Instruction) (state : State) : State :=
  let x := instruction.x
  let y := instruction.y
  let vx := state.register x
  let vy := state.register y
  match instruction.op with
  | .sys => state.advance 1
  | .cls => { state with screen := .dark }.advance 1
  | .ret => comeBack beyond state
  | .jp => jump instruction.nnn state
  | .call => call instruction.nnn state
  | .seImm => skipIf (vx == instruction.nn) state
  | .sneImm => skipIf (vx != instruction.nn) state
  | .seReg => skipIf (vx == vy) state
  | .ldImm => assign x instruction.nn state
  | .addImm => assign x (vx + instruction.nn) state
  | .ldReg => assign x (Arithmetic.set vx vy) state
  | .or => assign x (Arithmetic.or vx vy) state
  | .and => assign x (Arithmetic.and vx vy) state
  | .xor => assign x (Arithmetic.xor vx vy) state
  | .addReg => assignFlagged x (Arithmetic.add vx vy) state
  | .sub => assignFlagged x (Arithmetic.subtract vx vy) state
  | .shr => assignFlagged x (Arithmetic.shiftRight vx) state
  | .subn => assignFlagged x (Arithmetic.subtract vy vx) state
  | .shl => assignFlagged x (Arithmetic.shiftLeft vx) state
  | .sneReg => skipIf (vx != vy) state
  | .ldI => pointAt instruction.nnn state
  | .jpV0 => jump (instruction.nnn + (state.register baseRegister).toUInt16) state
  | .rnd => drawByte x instruction.nn state
  | .drw => drawSprite beyond x y instruction.n state
  | .skp => skipIf (Keypad.isHeld state.keypad vx) state
  | .sknp => skipIf (!Keypad.isHeld state.keypad vx) state
  | .ldVxDt => assign x state.delayTimer state
  | .ldVxK => awaitKey x state
  | .ldDtVx => { state with delayTimer := vx }.advance 1
  | .ldStVx => { state with soundTimer := vx }.advance 1
  | .addI => pointAt (state.index + vx.toUInt16) state
  | .ldF => pointAt (glyphAddress vx) state
  | .ldB => storeDigits vx state
  | .ldMemVx => storeRegisters beyond x state
  | .ldVxMem => loadRegisters beyond x state

/-- Carry out one instruction, the last cell of each bank answering for what lies
beyond it. -/
def State.execute (state : State) (instruction : Instruction) : State :=
  Chip8.execute state.clamp instruction state

/-- No instruction touches the budget. -/
@[simp] theorem budget_execute (beyond : Overrun) (instruction : Instruction) (state : State) :
    (execute beyond instruction state).budget = state.budget := by
  unfold execute
  cases instruction.op
  case ldVxK => exact Execute.budget_awaitKey _ _
  case drw => exact Execute.budget_drawSprite _ _ _ _ _
  all_goals rfl

@[simp] theorem State.budget_execute (state : State) (instruction : Instruction) :
    (state.execute instruction).budget = state.budget :=
  Chip8.budget_execute _ _ _

end Chip8
