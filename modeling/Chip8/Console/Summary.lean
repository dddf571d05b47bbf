import Chip8.Argument.Template
import Chip8.Console.Logger
import Chip8.Notice

/-!
# Periodic summaries

A summary observer logs every program that is loaded, every frame that fails,
and one line for each finished frame whose ordinal is a multiple of its
interval.  The sign of the interval does not matter; an interval of zero makes
every finished frame fail.

The interval and whatever a line shows may be of any type, as a host may stand in
for a machine.  `Summary.react` is what a machine needs: its reaction to a
notice.
-/

namespace Chip8.Console

open Text (decimal hexadecimal)

/-- An observer that logs summaries. -/
structure Summary where
  interval : Argument
  logger : Logger

/-- What a summary shows of a machine. -/
structure Sight where
  /-- Frames finished so far. -/
  frames : Argument
  pc : Argument
  tone : Argument

/-- What a summary shows of a machine that sends a notice. -/
def Sight.ofNotice (notice : Notice) : Sight :=
  ⟨.integer notice.frames, .integer notice.pc, .truth notice.tone⟩

namespace Summary

/-- Whether a number of frames is a multiple of an interval.  Two integers are
compared exactly; a double on either side makes both of them doubles. -/
def isMultiple (frames interval : Quantity) : Except Failure Bool :=
  match frames, interval with
  | .whole frames, .whole interval =>
      if interval = 0 then .error .zeroInterval else .ok (frames % interval == 0)
  | frames, interval =>
      match frames.toFloat?, interval.toFloat? with
      | some frames, some interval =>
          if interval == 0 then .error .zeroInterval
          else .ok (Quantity.isMultiple frames interval)
      | _, _ => .error .infinite

/-- Whether a summary is due after so many frames.  A text in place of their number
is a template for the interval; filled, if there is room for that, it is a text and no
multiple of anything. -/
def isDue (summary : Summary) (room : Nat) (frames : Argument) : Except Failure Bool :=
  match frames with
  | .text template => (Argument.Template.check room template summary.interval).map fun _ => false
  | _ =>
      match frames.toQuantity?, summary.interval.toQuantity? with
      | some frames, some interval => isMultiple frames interval
      | _, _ => .error .notNumber

/-- The line for a finished frame. -/
def frameText (sight : Sight) (instructions elapsed : Argument) : Except Failure String := do
  let frames ← sight.frames.format (decimal 6)
  let instructions ← instructions.format (decimal 4)
  let elapsed ← elapsed.format (decimal 6)
  let pc ← sight.pc.format (hexadecimal 3)
  return "Frame " ++ frames ++ " | " ++ instructions ++ " instructions | " ++ elapsed ++
    "us | PC=0x" ++ pc ++ " | tone=" ++ (if sight.tone.isTrue then "on" else "off")

/-- What a summary observer writes when a program of some size is loaded. -/
def onLoad (summary : Summary) (clock size : Argument) : Except Failure String :=
  summary.logger.write clock .info ("Loaded " ++ size.print ++ "-byte program")

/-- What a summary observer writes when a frame is finished. -/
def onFrame (summary : Summary) (room : Nat) (clock : Argument) (sight : Sight)
    (instructions elapsed : Argument) : Except Failure String := do
  if ← summary.isDue room sight.frames then
    summary.logger.write clock .info (← frameText sight instructions elapsed)
  else return ""

/-- What a summary observer writes when a frame fails. -/
def onError (summary : Summary) (clock frames : Argument) (message : String) :
    Except Failure String :=
  summary.logger.write clock .error ("Frame " ++ frames.print ++ " aborted: " ++ message)

/-- What a summary observer writes for a notice. -/
def react (summary : Summary) (clock : Argument) (notice : Notice) : Except Failure String :=
  match notice.event with
  | .loaded size => summary.onLoad clock (.integer size)
  | .executed _ _ => .ok ""
  | .finished instructions elapsed =>
      -- A machine counts its frames in integers, which take no room to fill in.
      summary.onFrame 0 clock (.ofNotice notice) (.integer instructions) (.integer elapsed)
  | .failed fault => summary.onError clock (.integer notice.frames) fault.message

/-- With an integer interval other than zero, a summary is due after the multiples
of the interval. -/
theorem isDue_integer {summary : Summary} {interval : Int}
    (h : summary.interval = .integer interval) (hne : interval ≠ 0) (room : Nat) (frames : Int) :
    summary.isDue room (.integer frames) = .ok (frames % interval == 0) := by
  simp [isDue, isMultiple, h, hne]

/-- The line for a finished frame of a machine. -/
theorem frameText_ofNotice (notice : Notice) (instructions elapsed : Int) :
    frameText (.ofNotice notice) (.integer instructions) (.integer elapsed) =
      .ok ("Frame " ++ decimal 6 notice.frames ++ " | " ++ decimal 4 instructions ++
        " instructions | " ++ decimal 6 elapsed ++ "us | PC=0x" ++ hexadecimal 3 notice.pc ++
        " | tone=" ++ (if notice.tone then "on" else "off")) := rfl

end Summary

end Chip8.Console
