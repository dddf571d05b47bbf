import Chip8.Argument.Parts
import Chip8.Argument.Print
import Chip8.Failure
import Chip8.Guard
import Chip8.Quantity

/-!
# Drafts of instructions

A host may check an instruction it has put together itself.  The fields of such
a draft are values of no fixed type, so registers and operation are looked at
before anything else.  A span need not have a whole number of bytes; if such a
span ends past the end of memory, its last byte has no address to report.
-/

namespace Chip8

open Layout

/-- The fields of an instruction that a host has put together itself, as far as a
check looks at them. -/
structure Draft where
  op : Argument
  x : Argument
  y : Argument
  n : Argument
  deriving Inhabited

/-- The operation whose number equals an argument. -/
def Op.ofArgument? (argument : Argument) : Option Op := do
  let number ← argument.toQuantity?
  all.toList.find? fun op => number.equal (.whole op.code.val)

namespace Draft

/-- The names of the fields of an instruction. -/
def fieldNames : List String := ["raw", "op", "x", "y", "n", "nn", "nnn"]

/-- The draft of a table of fields.  All of them have to be fields of an instruction,
and the operation has to be there; the others are zero if they are not. -/
def ofFields : Argument → Except Failure Draft
  | .table entries =>
      let operand (name : String) : Argument :=
        (Argument.lookUp? entries name).getD (.integer 0)
      if !entries.all fun entry => fieldNames.contains entry.1 then .error .unknownField
      else
        match Argument.lookUp? entries "op" with
        | some op => .ok ⟨op, operand "x", operand "y", operand "n"⟩
        | none => .error .opMissing
  | _ => .error .notParts

/-- Whether an argument lies in the range of the registers. -/
def namesRegister (argument : Argument) : Except Failure Bool :=
  match argument.toQuantity? with
  | some number =>
      .ok ((number.equal (.whole 0) || Quantity.less (.whole 0) number) &&
        number.less (.whole registerCount))
  | none => .error .notNumber

/-- Refuse operands that name no register.  The second one is looked at only if
the first one names a register. -/
def checkRegisters (draft : Draft) : Except Failure Unit := do
  let named ← namesRegister draft.x
  let named ← if named then namesRegister draft.y else .ok false
  if named then .ok () else .error (.registersOutOfRange draft.x.print draft.y.print)

/-- Refuse a span that ends past the end of memory. -/
def checkSpan (state : State) (length : Quantity) : Except Failure Unit :=
  match length with
  | .whole length => (Guard.checkSpan state length).mapError .fault
  | .real length =>
      let last := Float.ofNat state.index.toNat + length - 1
      if length ≤ 0 then .ok ()
      else if Float.ofNat memorySize ≤ last then .error .notNumeral
      else .ok ()

/-- How many bytes a draft of an operation reaches through the index. -/
def span (draft : Draft) (op : Op) : Except Failure Quantity :=
  let length :=
    match op with
    | .drw => draft.n.toQuantity?
    | .ldB => some (.whole 3)
    | .ldMemVx | .ldVxMem => draft.x.toQuantity?.bind fun x => x.plus (.whole 1)
    | _ => some (.whole 0)
  match length with
  | some length => .ok length
  | none => .error .notNumber

/-- Refuse a draft whose operands name no register, whose operation does not
exist, or which would leave memory or the call stack. -/
def check (draft : Draft) (state : State) : Except Failure Unit := do
  draft.checkRegisters
  match Op.ofArgument? draft.op with
  | none => .error .unknownOp
  | some op =>
      (Guard.checkStack state op).mapError .fault
      checkSpan state (← draft.span op)

end Draft

end Chip8
