/-!
Contract: how much is logged.

Owns: the levels, their order and their names, which are read in any case.

Does not own: the log.
-/

namespace ArithmeticCloud

/-- From the most talkative to silence. -/
inductive LogLevel where
  | trace
  | debug
  | info
  | warn
  | error
  | fatal
  | off
deriving DecidableEq, Repr

namespace LogLevel

/-- In ascending order. -/
def all : List LogLevel := [.trace, .debug, .info, .warn, .error, .fatal, .off]

def title : LogLevel → String
  | .trace => "Trace"
  | .debug => "Debug"
  | .info => "Info"
  | .warn => "Warn"
  | .error => "Error"
  | .fatal => "Fatal"
  | .off => "Off"

/-- Reads a name, ignoring the case of ASCII letters. -/
def parse? (text : String) : Option LogLevel :=
  all.find? fun level => level.title.toLower == text.toLower

/-- The position in ascending order. -/
def rank (level : LogLevel) : Nat := all.idxOf level

def sort (levels : List LogLevel) : List LogLevel :=
  levels.mergeSort fun left right => left.rank ≤ right.rank

end LogLevel

end ArithmeticCloud
