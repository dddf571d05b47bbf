/-!
# Operations

The interpreter knows thirty-five operations.  This file lists them in the
order in which reports print them, gives every one its number and its printed
name, and fixes what it costs.

The cost of an instruction depends on its operation alone: not on operands, not
on whether a skip is taken, not on how many rows a sprite has.
-/

namespace Chip8

/-- The operations, in report order.  The word that selects each one is shown
beside it, with `X`, `Y`, `N` for operand nibbles. -/
inductive Op where
  /-- `0NNN`: a routine of the host processor, ignored. -/
  | sys
  /-- `00E0`: clear the screen. -/
  | cls
  /-- `00EE`: return from a subroutine. -/
  | ret
  /-- `1NNN`: jump. -/
  | jp
  /-- `2NNN`: call a subroutine. -/
  | call
  /-- `3XNN`: skip if a register equals a byte. -/
  | seImm
  /-- `4XNN`: skip if a register differs from a byte. -/
  | sneImm
  /-- `5XY0`: skip if two registers are equal. -/
  | seReg
  /-- `6XNN`: set a register to a byte. -/
  | ldImm
  /-- `7XNN`: add a byte to a register, without a carry. -/
  | addImm
  /-- `8XY0`: copy a register. -/
  | ldReg
  /-- `8XY1`: bitwise or. -/
  | or
  /-- `8XY2`: bitwise and. -/
  | and
  /-- `8XY3`: bitwise exclusive or. -/
  | xor
  /-- `8XY4`: add, with the carry in the flag register. -/
  | addReg
  /-- `8XY5`: subtract, with the absence of a borrow in the flag register. -/
  | sub
  /-- `8XY6`: shift right. -/
  | shr
  /-- `8XY7`: subtract the other way round. -/
  | subn
  /-- `8XYE`: shift left. -/
  | shl
  /-- `9XY0`: skip if two registers differ. -/
  | sneReg
  /-- `ANNN`: set the index. -/
  | ldI
  /-- `BNNN`: jump to an address plus register zero. -/
  | jpV0
  /-- `CXNN`: draw a random byte under a mask. -/
  | rnd
  /-- `DXYN`: draw a sprite. -/
  | drw
  /-- `EX9E`: skip if a key is held. -/
  | skp
  /-- `EXA1`: skip if a key is not held. -/
  | sknp
  /-- `FX07`: read the delay timer. -/
  | ldVxDt
  /-- `FX0A`: wait for a key. -/
  | ldVxK
  /-- `FX15`: set the delay timer. -/
  | ldDtVx
  /-- `FX18`: set the sound timer. -/
  | ldStVx
  /-- `FX1E`: add a register to the index. -/
  | addI
  /-- `FX29`: point the index at a font glyph. -/
  | ldF
  /-- `FX33`: store three decimal digits. -/
  | ldB
  /-- `FX55`: store registers in memory. -/
  | ldMemVx
  /-- `FX65`: load registers from memory. -/
  | ldVxMem
  deriving DecidableEq, Repr, Inhabited

namespace Op

/-- How many operations there are. -/
abbrev count : Nat := 35

/-- Every operation once, in report order. -/
def all : Vector Op count :=
  #v[.sys, .cls, .ret, .jp, .call, .seImm, .sneImm, .seReg, .ldImm, .addImm,
    .ldReg, .or, .and, .xor, .addReg, .sub, .shr, .subn, .shl, .sneReg,
    .ldI, .jpV0, .rnd, .drw, .skp, .sknp, .ldVxDt, .ldVxK, .ldDtVx, .ldStVx,
    .addI, .ldF, .ldB, .ldMemVx, .ldVxMem]

/-- The number of an operation: its place in `all`. -/
def code : Op → Fin count
  | sys => 0
  | cls => 1
  | ret => 2
  | jp => 3
  | call => 4
  | seImm => 5
  | sneImm => 6
  | seReg => 7
  | ldImm => 8
  | addImm => 9
  | ldReg => 10
  | or => 11
  | and => 12
  | xor => 13
  | addReg => 14
  | sub => 15
  | shr => 16
  | subn => 17
  | shl => 18
  | sneReg => 19
  | ldI => 20
  | jpV0 => 21
  | rnd => 22
  | drw => 23
  | skp => 24
  | sknp => 25
  | ldVxDt => 26
  | ldVxK => 27
  | ldDtVx => 28
  | ldStVx => 29
  | addI => 30
  | ldF => 31
  | ldB => 32
  | ldMemVx => 33
  | ldVxMem => 34

/-- The operation of a number. -/
def ofCode (code : Fin count) : Op := all[code]

@[simp] theorem ofCode_code (op : Op) : ofCode op.code = op := by
  cases op <;> rfl

theorem code_injective {first second : Op} (h : first.code = second.code) : first = second := by
  rw [← ofCode_code first, h, ofCode_code]

/-- The name under which reports print an operation. -/
def name : Op → String
  | sys => "SYS"
  | cls => "CLS"
  | ret => "RET"
  | jp => "JP"
  | call => "CALL"
  | seImm => "SE_IMM"
  | sneImm => "SNE_IMM"
  | seReg => "SE_REG"
  | ldImm => "LD_IMM"
  | addImm => "ADD_IMM"
  | ldReg => "LD_REG"
  | or => "OR"
  | and => "AND"
  | xor => "XOR"
  | addReg => "ADD_REG"
  | sub => "SUB"
  | shr => "SHR"
  | subn => "SUBN"
  | shl => "SHL"
  | sneReg => "SNE_REG"
  | ldI => "LD_I"
  | jpV0 => "JP_V0"
  | rnd => "RND"
  | drw => "DRW"
  | skp => "SKP"
  | sknp => "SKNP"
  | ldVxDt => "LD_VX_DT"
  | ldVxK => "LD_VX_K"
  | ldDtVx => "LD_DT_VX"
  | ldStVx => "LD_ST_VX"
  | addI => "ADD_I"
  | ldF => "LD_F"
  | ldB => "LD_B"
  | ldMemVx => "LD_MEM_VX"
  | ldVxMem => "LD_VX_MEM"

/-- The operation printed under a name. -/
def ofName? (text : String) : Option Op := all.toList.find? fun op => op.name == text

/-! ### Cost -/

/-- What executing an operation costs, in microseconds. -/
def cost : Op → Int32
  | sys => 100
  | cls => 109
  | ret | jp | call | jpV0 => 105
  | seImm | sneImm | seReg | sneReg => 61
  | ldImm | ldReg | ldVxDt => 27
  | addImm | addReg | ldDtVx | ldStVx => 45
  | or | and | xor | sub | shr | subn | shl | ldVxK => 200
  | ldI => 55
  | rnd => 164
  | drw => 22734
  | skp | sknp => 73
  | addI => 86
  | ldF => 91
  | ldB => 927
  | ldMemVx | ldVxMem => 605

/-- No operation is free. -/
theorem le_toInt_cost (op : Op) : 27 ≤ op.cost.toInt := by
  cases op <;> decide

/-- Drawing a sprite is the dearest operation. -/
theorem toInt_cost_le (op : Op) : op.cost.toInt ≤ 22734 := by
  cases op <;> decide

end Op

end Chip8
