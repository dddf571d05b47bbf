import Chip8.Argument.Conversion
import Chip8.Argument.Parts

/-!
# Templates

A template is a text with places for values.  A percent sign opens a place, or
stands for itself if another one follows.  A place names, in this order and all but
the last at will: in parentheses, an entry to look up; flags; a width; after a
point, a precision; a letter `h`, `l` or `L`, which says nothing; and the letter of
a conversion.

A host hands over one value to fill a template with.  The first conversion, or the
first asterisk in place of a width or a precision, takes it.  A value that has
entries need not be taken, and an entry that was looked up is there to be taken in
its place.

`check` says whether a template can be filled, where there is room for so many
characters.  It reads the template letter by letter, so the first thing that is wrong
decides.
-/

namespace Chip8.Argument.Template

open Text (Letter)

/-- What is read next. -/
inductive Part where
  /-- Text outside places. -/
  | text
  /-- What follows a percent sign. -/
  | place
  /-- The name of an entry, so many parentheses deep, whose letters so far are given
  in reverse. -/
  | name (depth : Nat) (letters : List Letter)
  /-- Flags, or what follows them. -/
  | flags
  /-- Further digits of a width, or what follows them. -/
  | width
  /-- What follows an asterisk for a width. -/
  | widthEnd
  /-- What follows a point. -/
  | point
  /-- Further digits of a precision, or what follows them. -/
  | precision
  /-- What follows an asterisk for a precision. -/
  | precisionEnd
  /-- The letter of a conversion. -/
  | conversion

/-- How far the filling of a template has come. -/
structure Filling where
  part : Part
  /-- What can still be taken. -/
  value : Option Argument
  /-- The width of the place, as far as it was read. -/
  width : Nat
  /-- The precision of the place, as far as it was read. -/
  precision : Nat

/-- The largest width that is read. -/
abbrev maxWidth : Nat := 0x7FFFFFFFFFFFFFFF

/-- The largest precision that is read. -/
abbrev maxPrecision : Nat := 0x7FFFFFFF

namespace Filling

/-! ### Taking the value -/

/-- Take the value for a width or a precision, which has to be an integer whose size
is not above a limit. -/
def takeMeasure (filling : Filling) (limit : Nat) (next : Part) : Except Failure Filling :=
  match filling.value.bind Argument.integer? with
  | none => .error .templateMismatch
  | some value =>
      if -(limit : Int) - 1 ≤ value ∧ value ≤ limit then
        .ok { filling with part := next, value := none }
      else .error .lengthTooLarge

/-- Take the value for a conversion, which ends the place. -/
def convert (room : Nat) (filling : Filling) (letter : Letter) : Except Failure Filling :=
  match filling.value with
  | none => .error .templateMismatch
  | some value => do
      Conversion.check letter filling.precision value
      if room < filling.width then throw .outOfMemory
      return { filling with part := .text, value := none }

/-! ### Reading a place from its end -/

/-- Read the letter that says nothing, or the conversion. -/
def readLetter (room : Nat) (filling : Filling) (letter : Letter) : Except Failure Filling :=
  if letter.isAmong ['h', 'l', 'L'] then .ok { filling with part := .conversion }
  else filling.convert room letter

/-- The digit that a letter is, if it is one of the first ten. -/
def digit? (letter : Letter) : Option Nat :=
  if '0'.toNat ≤ letter.number ∧ letter.number ≤ '9'.toNat then
    some (letter.number - '0'.toNat)
  else none

/-- Read a digit of a precision, or what follows the precision. -/
def readPrecision (room : Nat) (filling : Filling) (letter : Letter) : Except Failure Filling :=
  match digit? letter with
  | some digit =>
      let precision := 10 * filling.precision + digit
      if maxPrecision < precision then .error .badTemplate
      else .ok { filling with part := .precision, precision }
  | none => filling.readLetter room letter

/-- Read the point before a precision, or what follows where there is none. -/
def readPoint (room : Nat) (filling : Filling) (letter : Letter) : Except Failure Filling :=
  if letter = .char '.' then .ok { filling with part := .point }
  else filling.readLetter room letter

/-- Read a digit of a width, or what follows the width. -/
def readWidth (room : Nat) (filling : Filling) (letter : Letter) : Except Failure Filling :=
  match digit? letter with
  | some digit =>
      let width := 10 * filling.width + digit
      if maxWidth < width then .error .badTemplate
      else .ok { filling with part := .width, width }
  | none => filling.readPoint room letter

/-- Read a flag, or what follows the flags. -/
def readFlag (room : Nat) (filling : Filling) (letter : Letter) : Except Failure Filling :=
  if letter.isAmong ['-', '+', ' ', '#', '0'] then .ok { filling with part := .flags }
  else if letter = .char '*' then filling.takeMeasure maxWidth .widthEnd
  else filling.readWidth room letter

/-! ### Entries -/

/-- Whether a value has entries. -/
def hasEntries : Argument → Bool
  | .list _ | .table _ => true
  | .nothing | .truth _ | .integer _ | .real _ | .text _ => false

/-- Look an entry up, which becomes the value to take.  The entries of a list have no
names. -/
def lookUp (filling : Filling) (source : Argument) (name : String) : Except Failure Filling :=
  match source with
  | .table entries =>
      match lookUp? entries name with
      | some value => .ok { filling with part := .flags, value := some value }
      | none => .error .entryMissing
  | _ => .error .templateMismatch

/-- Read a letter of a name, which ends with the parenthesis that it began with. -/
def readName (filling : Filling) (source : Argument) (depth : Nat) (letters : List Letter)
    (letter : Letter) : Except Failure Filling :=
  if letter = .char '(' then .ok { filling with part := .name (depth + 1) (letter :: letters) }
  else if letter = .char ')' then
    match depth with
    | 0 => filling.lookUp source (Text.ofLetters letters.reverse)
    | depth + 1 => .ok { filling with part := .name depth (letter :: letters) }
  else .ok { filling with part := .name depth (letter :: letters) }

/-! ### Reading a template -/

/-- Read a letter of a template. -/
def read (room : Nat) (source : Argument) (filling : Filling) (letter : Letter) :
    Except Failure Filling :=
  match filling.part with
  | .text =>
      .ok (if letter = .char '%' then { filling with part := .place, width := 0, precision := 0 }
        else filling)
  | .place =>
      if letter = .char '%' then .ok { filling with part := .text }
      else if letter = .char '(' then
        if hasEntries source then .ok { filling with part := .name 0 [] }
        else .error .templateMismatch
      else filling.readFlag room letter
  | .name depth letters => filling.readName source depth letters letter
  | .flags => filling.readFlag room letter
  | .width => filling.readWidth room letter
  | .widthEnd => filling.readPoint room letter
  | .point =>
      if letter = .char '*' then filling.takeMeasure maxPrecision .precisionEnd
      else filling.readPrecision room letter
  | .precision => filling.readPrecision room letter
  | .precisionEnd => filling.readLetter room letter
  | .conversion => filling.convert room letter

/-- Check that a template ends outside its places and that the value was taken. -/
def finish (source : Argument) (filling : Filling) : Except Failure Unit :=
  match filling.part with
  | .text =>
      if filling.value.isSome && !hasEntries source then .error .templateMismatch else .ok ()
  | _ => .error .badTemplate

end Filling

/-- Check that a template can be filled with a value, where no place is wider than there is
room for. -/
def check (room : Nat) (template : String) (source : Argument) : Except Failure Unit := do
  let filling ← (Text.letters template).foldlM (Filling.read room source) ⟨.text, some source, 0, 0⟩
  filling.finish source

end Chip8.Argument.Template
