/-!
# Levels of log lines

A line is logged at one of five levels. A logger with a level shows the lines of that level and of
all above it.
-/

namespace EventLedger

/-- The level of a log line. -/
inductive Level where
  | debug
  | info
  | warning
  | error
  | critical
deriving DecidableEq

namespace Level

/-- The rank of a level; a higher one is more urgent. -/
def rank : Level → Nat
  | .debug => 10
  | .info => 20
  | .warning => 30
  | .error => 40
  | .critical => 50

/-- The name of a level. -/
def name : Level → String
  | .debug => "DEBUG"
  | .info => "INFO"
  | .warning => "WARNING"
  | .error => "ERROR"
  | .critical => "CRITICAL"

/-- All levels. -/
def all : List Level :=
  [.debug, .info, .warning, .error, .critical]

/-- The level with a name. -/
def ofName? (name : String) : Option Level :=
  all.find? fun l => l.name == name

theorem ofName?_name (l : Level) : ofName? l.name = some l := by
  cases l <;> rfl

end Level

end EventLedger
