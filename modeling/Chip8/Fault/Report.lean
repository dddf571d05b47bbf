import Chip8.Argument
import Chip8.Fault

/-!
# Reports of faults

A report says of which kind a fault is, describes it in words, and repeats the
values it carries under their names.  Hosts build reports of their own, also of
the two kinds that no instruction raises, so the values are of no fixed type.
-/

namespace Chip8

/-- The kinds of fault. -/
inductive FaultKind where
  | invalidOp
  | romTooLarge
  | pcOutOfBounds
  | memoryOutOfBounds
  | stackOverflow
  | stackUnderflow
  /-- A marker for diagnosis, which no instruction raises. -/
  | breakpoint
  /-- Any other fault, known by its text alone. -/
  | other
  deriving DecidableEq, Repr, Inhabited

/-- What a host learns about a fault. -/
structure FaultReport where
  kind : FaultKind
  message : String
  /-- The values that the fault carries, by name. -/
  attributes : List (String × Argument)

namespace Fault

/-- The kind of a fault. -/
def kind : Fault → FaultKind
  | invalidOp .. => .invalidOp
  | romTooLarge .. => .romTooLarge
  | pcOutOfBounds .. => .pcOutOfBounds
  | memoryOutOfBounds .. => .memoryOutOfBounds
  | stackOverflow .. => .stackOverflow
  | stackUnderflow .. => .stackUnderflow

/-- The values that a fault carries, by name. -/
def attributes : Fault → List (String × Argument)
  | invalidOp high low => [("words", .list [.integer high, .integer low])]
  | romTooLarge size limit => [("size", .integer size), ("limit", .integer limit)]
  | pcOutOfBounds pc | stackOverflow pc | stackUnderflow pc => [("pc", .integer pc)]
  | memoryOutOfBounds address pc => [("address", .integer address), ("pc", .integer pc)]

/-- What a host learns about a fault of the machine. -/
def report (fault : Fault) : FaultReport := ⟨fault.kind, fault.message, fault.attributes⟩

end Fault

end Chip8
