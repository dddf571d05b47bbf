import Chip8.Argument.Print
import Chip8.Failure
import Chip8.Quantity

/-!
# Loggers

A logger writes one line for each message at or above its threshold.  A line
shows, as far as the logger is set up for it, the time since the logger was
opened, then the level, the name of the logger and the message.

A host sets the clock, to a value of no fixed type.  A line that has to show a
time which cannot be worked out is not written; a message that is held back never
looks at the clock.
-/

namespace Chip8.Console

open Text (alignRight)

/-- A logger. -/
structure Logger where
  name : Argument
  /-- Messages below this level are held back. -/
  threshold : Level
  /-- Whether levels are shown in colour, as a host has said with a value of any
  type. -/
  colored : Argument
  /-- Whether lines start with the time. -/
  timed : Bool
  /-- What the clock showed, in seconds, when the logger was opened. -/
  opened : Argument

namespace Logger

/-- Open a logger with a threshold given by name.  Colours are used only if they are
wanted and the logger writes to a terminal; the first answer that counts as false
settles it, otherwise the last one. -/
def create (name threshold colored timed terminal clock : Argument) : Except Failure Logger :=
  match threshold with
  | .text text =>
      match Level.ofName? text with
      | some threshold =>
          .ok {
            name, threshold
            colored := if colored.isTrue then terminal else colored
            timed := timed.isTrue
            opened := clock }
      | none => .error (.unknownThreshold text)
  | _ => .error .levelNotText

/-- The code that switches a terminal back to its own colour. -/
def resetColor : String := "\x1b[0m"

/-- The time since the logger was opened. -/
def elapsed (logger : Logger) (clock : Argument) : Except Failure Float :=
  match clock.toQuantity?, logger.opened.toQuantity? with
  | some now, some opened =>
      match (now.minus opened).bind Quantity.toFloat? with
      | some time => .ok time
      | none => .error .infinite
  | _, _ => .error .notNumber

/-- The time since the logger was opened, in brackets, if lines start with it. -/
def stamp (logger : Logger) (clock : Argument) : Except Failure String :=
  if logger.timed then
    (logger.elapsed clock).map fun time => "[" ++ alignRight 8 (Number.fixed 2 time) ++ "s]"
  else .ok ""

/-- The level in brackets, in its colour if the logger uses colours. -/
def levelTag (logger : Logger) (level : Level) : String :=
  let tag := "[" ++ alignRight 8 level.name ++ "]"
  if logger.colored.isTrue then level.color ++ tag ++ resetColor else tag

/-- The line of a message, after the time. -/
def line (logger : Logger) (level : Level) (message : String) : String :=
  logger.levelTag level ++ "[" ++ logger.name.print ++ "] " ++ message ++ "\n"

/-- Whether a logger lets a level through. -/
def Passes (logger : Logger) (level : Level) : Prop := logger.threshold.rank ≤ level.rank

instance (logger : Logger) (level : Level) : Decidable (logger.Passes level) :=
  inferInstanceAs (Decidable (_ ≤ _))

/-- What a logger writes for a message. -/
def write (logger : Logger) (clock : Argument) (level : Level) (message : String) :
    Except Failure String :=
  if logger.Passes level then
    (logger.stamp clock).map fun stamp => stamp ++ logger.line level message
  else .ok ""

/-- What a logger writes for a message of any type whose level is given by name. -/
def writeNamed (logger : Logger) (clock level message : Argument) : Except Failure String :=
  match level with
  | .text name =>
      match Level.ofName? name with
      | some level => logger.write clock level message.print
      | none => .error .unknownLevel
  | _ => .error .levelNotText

/-- What a logger writes when a host calls it by a name: that of a level in lower case
with a message, or `log` with the name of a level and a message. -/
def call (logger : Logger) (clock : Argument) (name : String) (values : List Argument) :
    Except Failure String :=
  if name = "log" then
    match values with
    | [level, message] => logger.writeNamed clock level message
    | _ => .error .wrongPartCount
  else
    match Level.all.find? fun level => level.name.toLower == name, values with
    | none, _ => .error .unknownName
    | some level, [message] => logger.write clock level message.print
    | some _, _ => .error .wrongPartCount

/-- A logger without times never fails to write. -/
theorem write_of_not_timed {logger : Logger} (h : logger.timed = false) (clock : Argument)
    (level : Level) (message : String) :
    logger.write clock level message =
      .ok (if logger.Passes level then logger.line level message else "") := by
  unfold write stamp
  split <;> simp [h, Except.map]

/-- Nor does a logger that was opened at a clock showing a double and is asked at
another one. -/
theorem exists_write_of_real {logger : Logger} {opened : Float} (h : logger.opened = .real opened)
    (now : Float) (level : Level) (message : String) :
    ∃ text, logger.write (.real now) level message = .ok text := by
  unfold write stamp elapsed
  rw [h]
  split
  · split <;> exact ⟨_, rfl⟩
  · exact ⟨_, rfl⟩

end Logger

end Chip8.Console
