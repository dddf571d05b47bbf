/-!
# Levels of messages

Five levels say how much a message matters.  A logger has a threshold and holds
back every message below it.
-/

namespace Chip8.Console

/-- How much a message matters, from least to most. -/
inductive Level where
  | debug
  | info
  | warning
  | error
  | critical
  deriving DecidableEq, Repr, Inhabited

namespace Level

/-- Every level once, from least to most. -/
def all : List Level := [.debug, .info, .warning, .error, .critical]

/-- The rank of a level among the five. -/
def rank : Level → Nat
  | debug => 0
  | info => 1
  | warning => 2
  | error => 3
  | critical => 4

/-- The printed name of a level. -/
def name : Level → String
  | debug => "DEBUG"
  | info => "INFO"
  | warning => "WARNING"
  | error => "ERROR"
  | critical => "CRITICAL"

/-- The code that switches a terminal to a level's colour. -/
def color : Level → String
  | debug => "\x1b[36m"
  | info => "\x1b[32m"
  | warning => "\x1b[33m"
  | error => "\x1b[31m"
  | critical => "\x1b[35m"

/-- The upper case of a letter, as far as the names of the levels go.  Outside
the basic Latin letters only the dotless i has a capital that occurs in them. -/
def upperCase (letter : Char) : Char :=
  if letter = 'ı' then 'I' else letter.toUpper

/-- The level of a name, in letters of either case. -/
def ofName? (text : String) : Option Level :=
  all.find? fun level => level.name.toList == text.toList.map upperCase

end Level

end Chip8.Console
