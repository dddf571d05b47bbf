import Chip8.Argument.Print
import Chip8.Program
import Chip8.Text.Letter

/-!
# Programs in files

A program may also be read from a file.  Whatever a host hands over for its name, all that
matters is what is found under it and how it prints (`ProgramFile`).

The name may be a path.  Its parts lead from directory to directory, and the first part that
leads nowhere ends the search.  There are no directories but the one in which the search begins
and those above it, so a file can only be there under a name that stays among them
(`FileEntry.read`).
-/

namespace Chip8

open Text (Letter)

/-- What a host hands over for the name of a program file: the bytes that are found under it,
and how it prints. -/
structure ProgramFile where
  bytes : Except Failure (List UInt8)
  name : Except Failure String

/-- The program that a file holds. -/
def ProgramFile.program (file : ProgramFile) : Program :=
  ⟨file.bytes, file.bytes.map List.length, file.bytes.map List.length⟩

/-- What a host wants to be found under a file name. -/
inductive FileEntry where
  | file (bytes : List UInt8)
  /-- No file. -/
  | missing
  deriving DecidableEq, Repr, Inhabited

namespace FileEntry

/-- The most bytes that a name, with the byte that ends it, may take. -/
abbrev maxNameBytes : Nat := 4096

/-- The most bytes that a part of a name may take. -/
abbrev maxPartBytes : Nat := 255

/-! ### Names -/

/-- The bytes that a letter takes in a file name.  Half of a pair that can stand in one
takes a single byte. -/
def width : Letter → Nat
  | .char c => c.utf8Size
  | .half _ => 1

/-- The bytes that several letters take in a file name. -/
def bytesOf (letters : List Letter) : Nat :=
  letters.foldl (fun total letter => total + width letter) 0

/-- Whether a letter can be no part of a file name.  Of the halves of pairs only those
from 0xDC80 to 0xDCFF can: each stands for a byte that is no text. -/
def isUnwritable (letter : Letter) : Bool :=
  match letter with
  | .char _ => false
  | .half _ => letter.number < 0xDC80 || 0xDD00 ≤ letter.number

/-- The part of a name that stays in the directory one is in. -/
def here : List Letter := [.char '.']

/-- The part of a name that leads to the directory above. -/
def above : List Letter := [.char '.', .char '.']

/-- The parts of a name behind those that lead through the directories that exist. -/
def beyond (name : List Letter) : List (List Letter) :=
  (name.splitOn (.char '/')).dropWhile fun part => part.isEmpty || part == here || part == above

/-! ### Opening -/

/-- Why nothing can be looked for under a name, if nothing can. -/
def refusal? (name : List Letter) : Option Failure :=
  if name.any isUnwritable then some .unwritableFileName
  else if name.contains (.char (Char.ofNat 0)) then some .badFileName
  else if maxNameBytes ≤ bytesOf name then some .fileUnreachable
  else if name.isEmpty then some .fileMissing
  else none

/-- Why a part of a name leads nowhere. -/
def whyNowhere (part : List Letter) : Failure :=
  if maxPartBytes < bytesOf part then .fileUnreachable else .fileMissing

/-- Why no file is found under a name where there is none. -/
def whyMissing (name : List Letter) : Failure :=
  match refusal? name, beyond name with
  | some failure, _ => failure
  | none, [] => .fileIsDirectory
  | none, part :: _ => whyNowhere part

/-- Why there cannot be a file under a name, if there cannot be one.  What a slash ends
would be a directory, whatever its length. -/
def obstacle? (name : List Letter) : Option Failure :=
  match refusal? name, beyond name with
  | some failure, _ => some failure
  | none, [] => some .fileIsDirectory
  | none, [part] => if maxPartBytes < bytesOf part then some .fileUnreachable else none
  | none, part :: rest =>
      some (if rest.all List.isEmpty then .fileIsDirectory else whyNowhere part)

/-- Why no file can be opened under what a host takes for its name, if that is no text.
An integer is taken for the number of an open file. -/
def whyNotName (name : Argument) : Failure :=
  match name.integer? with
  | none => .fileNameNotText
  | some number =>
      if number < -0x80000000 ∨ 0x80000000 ≤ number then .fileNameNotText
      else if number < 0 then .badFileName
      else .fileUnreachable

/-- Why a file cannot be opened under a name, if it cannot. -/
def failure? (entry : FileEntry) (name : Argument) : Option Failure :=
  match name, entry with
  | .text name, file _ => obstacle? (Text.letters name)
  | .text name, missing => some (whyMissing (Text.letters name))
  | name, _ => some (whyNotName name)

/-- The bytes that are found under a name. -/
def read (entry : FileEntry) (name : Argument) : Except Failure (List UInt8) :=
  match entry.failure? name, entry with
  | some failure, _ => .error failure
  | none, file bytes => .ok bytes
  | none, missing => .error .fileMissing

/-- What is found under a name, with the name. -/
def under (entry : FileEntry) (name : Argument) : ProgramFile := ⟨entry.read name, .ok name.print⟩

end FileEntry

/-- Load a program from a file. -/
def State.loadFile (state : State) (file : ProgramFile) : Except Failure State :=
  state.loadProgram file.program

end Chip8
