/-!
# Log records

What the library reports while it works: a level and a message. Nothing
else of logging is kept, so a run's log is a list that theorems can count.
-/

namespace Courier

/-- The levels that the library reports at, the most detailed first. -/
inductive LogLevel where
  | trace
  | debug
  | info
  deriving DecidableEq, Repr

namespace LogLevel

def name : LogLevel → String
  | .trace => "TRACE"
  | .debug => "DEBUG"
  | .info => "INFO"

/-- The rank of a level: higher is more important. -/
def rank : LogLevel → Nat
  | .trace => 5
  | .debug => 10
  | .info => 20

end LogLevel

/-- One record of a log. -/
structure LogRecord where
  level : LogLevel
  message : String
  deriving DecidableEq, Repr

/-- A log, the earliest record first. -/
abbrev Log := List LogRecord

namespace Log

/-- The records that are at least as important as `least`. -/
def atLeast (least : LogLevel) (log : Log) : Log := log.filter (least.rank ≤ ·.level.rank)

end Log

end Courier
