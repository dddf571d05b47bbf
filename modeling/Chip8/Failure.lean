import Chip8.Console.Level
import Chip8.Fault
import Chip8.Screen.Scheme
import Chip8.Text.Listing

/-!
# Failures

A call fails either with a fault of the machine or because the host asked for
something that cannot be done.  Each constructor of `Failure` is one cause.  The
causes that the library words itself have a message; those noticed while an
argument is being taken apart have none.
-/

namespace Chip8

/-- Why a call failed. -/
inductive Failure where
  /-- The machine itself failed. -/
  | fault (cause : Fault)
  /-- A seed of another type than an integer. -/
  | seedNotInteger (typeName : String)
  /-- A seed that does not fit in 64 bits. -/
  | seedOutOfRange (seed : Int)
  /-- A keypad mask of another type than an integer. -/
  | maskNotInteger (typeName : String)
  /-- A keypad mask that does not fit in 16 bits, as it prints. -/
  | maskOutOfRange (mask : String)
  /-- Operands of a hand-built instruction that name no register, as they print. -/
  | registersOutOfRange (x y : String)
  /-- The operation of a hand-built instruction does not exist. -/
  | unknownOp
  /-- No stop code has that number. -/
  | unknownStopCode
  /-- A logger asked to hold back messages below a level that does not exist. -/
  | unknownThreshold (name : String)
  /-- A message of a level that does not exist. -/
  | unknownLevel
  /-- A level that is no text. -/
  | levelNotText
  /-- A colour scheme that does not exist. -/
  | unknownScheme (name : String)
  /-- A scheme name that cannot be looked up. -/
  | schemeNotLookedUp
  /-- An enlargement below one, as it prints. -/
  | scaleTooSmall (scale : String)
  /-- A picture with more bytes than can be counted. -/
  | pictureUncountable
  /-- A value that has no parts. -/
  | notParts
  /-- Colours that do not match the pixels they are for. -/
  | colorsMismatched
  /-- A cell of a text picture that is no text. -/
  | cellNotText
  /-- A screen of another shape than a row of 256 bytes. -/
  | wrongShape (shape : List Nat)
  /-- Nested lists that fill no rectangle, or are nested too deeply. -/
  | ragged
  /-- A number that there is no room for. -/
  | elementOutOfRange
  /-- A value that stands for no number. -/
  | notNumber
  /-- A number beyond the largest double. -/
  | infinite
  /-- A text, or a number of the wrong kind, that reads as no number. -/
  | notNumeral
  /-- A value that is no sequence of bytes. -/
  | notBytes
  /-- A number in a sequence of bytes that is none. -/
  | byteOutOfRange
  /-- A byte sequence of negative length. -/
  | negativeLength
  /-- A byte sequence too long to be addressed. -/
  | lengthTooLarge
  /-- Bytes or characters that take more space than there is. -/
  | outOfMemory
  /-- A value without a length. -/
  | noLength
  /-- A list of another length than two where a pair was expected. -/
  | notPair
  /-- Something asked for with the wrong number of parts. -/
  | wrongPartCount
  /-- A name under which nothing can be asked for. -/
  | unknownName
  /-- A name that is no text. -/
  | nameNotText
  /-- A value whose entries were asked for, but which is no table. -/
  | notTable
  /-- An entry that a table does not have. -/
  | entryMissing
  /-- An item that a list does not have. -/
  | itemMissing
  /-- A hand-built instruction with a field that no instruction has. -/
  | unknownField
  /-- A hand-built instruction without an operation. -/
  | opMissing
  /-- Masks to choose from that are none. -/
  | noMasks
  /-- Masks that do not match the keys they are for. -/
  | masksMismatched
  /-- A question about what was not recorded. -/
  | notRecorded
  /-- Several numbers where a single one was expected. -/
  | notSingle
  /-- A template with a place that is not closed, or that asks for what there is
  not. -/
  | badTemplate
  /-- A template that does not suit the value it is to be filled with. -/
  | templateMismatch
  /-- A summary asked for every zeroth frame. -/
  | zeroInterval
  /-- A file that does not exist. -/
  | fileMissing
  /-- A directory where a file was expected. -/
  | fileIsDirectory
  /-- A file name, or a part of one, that is too long, or that names no open
  file. -/
  | fileUnreachable
  /-- A file name with a character that no file name has. -/
  | unwritableFileName
  /-- A file name that cannot be one. -/
  | badFileName
  /-- A value that is no file name. -/
  | fileNameNotText
  /-- A failure of a host's own making, by its name. -/
  | foreign (name : String)
  deriving DecidableEq, Repr, Inhabited

namespace Failure

open Console (Level)
open Text (choices parenthesized)

/-- What a report says about a failure, if the library words it. -/
def message? : Failure → Option String
  | fault cause => some cause.message
  | seedNotInteger typeName => some s!"Seed must be an integer, got {typeName}"
  | seedOutOfRange seed => some s!"Seed must fit in 64 unsigned bits, got {seed}"
  | maskNotInteger typeName => some s!"Keypad mask must be an integer, got {typeName}"
  | maskOutOfRange mask => some s!"Keypad mask must fit in 16 bits, got {mask}"
  | registersOutOfRange x y => some s!"Register operands must be 0..15, got x={x} y={y}"
  | unknownThreshold name =>
      some ("Unknown log level '" ++ name ++ "'. Available: " ++
        choices (Level.all.map Level.name))
  | unknownScheme name =>
      some ("Unknown color scheme '" ++ name ++ "'. Available: " ++
        choices (Scheme.all.map Scheme.name))
  | scaleTooSmall scale => some s!"Scale must be at least 1, got {scale}"
  | wrongShape shape =>
      some ("Expected 256 packed bytes, got shape " ++ parenthesized (shape.map toString))
  | _ => none

end Failure

end Chip8
