/-!
# Levels of settings

The levels that settings can name, for the logger and for the handler that
prints its records.
-/

namespace Courier.Settings

/-- A level that records are measured against. -/
inductive Level where
  /-- No level of its own. -/
  | unset
  | debug
  | info
  | warning
  | error
  | critical
  | trace
  deriving DecidableEq, Repr

namespace Level

/-- The name of a level in a settings file. -/
def name : Level → String
  | .unset => "notset"
  | .debug => "debug"
  | .info => "info"
  | .warning => "warning"
  | .error => "error"
  | .critical => "critical"
  | .trace => "trace"

/-- The rank of a level: higher is more important. -/
def rank : Level → Nat
  | .unset => 0
  | .debug => 10
  | .info => 20
  | .warning => 30
  | .error => 40
  | .critical => 50
  | .trace => 5

/-- The levels that records can have, in the order of the table of names. -/
def ofRecords : List Level := [.debug, .info, .warning, .error, .critical, .trace]

def ofName? (name : String) : Option Level := (.unset :: ofRecords).find? (·.name == name)

/-- Every level is found by its name. -/
theorem ofName?_name (level : Level) : ofName? level.name = some level := by
  cases level <;> decide

end Level

end Courier.Settings
