import EventLedger.Config
import EventLedger.Json.Writer
import EventLedger.Logging.Level

/-!
# Log lines

How log lines are shown: from which level on, and as documents or as plain text. Each line carries
the name of its logger and a trace id, which tells the lines of one entity from those of another.
-/

namespace EventLedger

/-- How log lines are shown. -/
structure Logging where
  level : Level
  /-- Lines are documents instead of plain text. -/
  asJson : Bool
deriving DecidableEq

/-- What is logged. -/
structure LogLine where
  logger : String
  level : Level
  message : String
  /-- What the line is about, if anything. -/
  trace : Option String

namespace Logging

/-- A letter of a level's name in upper case. The dotless i is the only letter outside of ASCII with
such an upper case. -/
def upperLetter (c : Char) : Char :=
  if c == '\u0131' then 'I' else c.toUpper

/-- The given value if it is not empty, else the variable's, else the default. -/
def setting (env : Environment) (given : Option String) (key default : String) : String :=
  match given.filter (!·.isEmpty) with
  | some value => value
  | none => (env.get? key).getD default

/-- How lines are shown for a given level and format, and otherwise as the environment says. A level
that is none counts as `INFO`, a format that is not `json` as text. -/
def setup (env : Environment) (level format : Option String) : Logging where
  level :=
    let name := (setting env level "EVSOURCE_LOG_LEVEL" "INFO").toList.map upperLetter
    (Level.ofName? (String.ofList name)).getD .info
  asJson :=
    let name := (setting env format "EVSOURCE_LOG_FORMAT" "json").toList
    Text.lower name == "json".toList

/-- Whether a line is shown. -/
def shows (l : Logging) (line : LogLine) : Bool :=
  l.level.rank ≤ line.level.rank

/-- The trace id that a line is shown with. -/
def traceId (line : LogLine) : String :=
  (line.trace.filter (!·.isEmpty)).getD "N/A"

/-- The name that a line's logger is shown with; the one without a name is the root of all. -/
def loggerName (line : LogLine) : String :=
  if line.logger.isEmpty then "root" else line.logger

/-- A line as a document, at a time of day. -/
def document (line : LogLine) (time : String) : Value :=
  .record [("timestamp", .str time), ("logger", .str (loggerName line)),
    ("level", .str line.level.name), ("message", .str line.message),
    ("trace_id", .str (traceId line))]

/-- A line as plain text, at a time of day. -/
def plain (line : LogLine) (time : String) : String :=
  time ++ " - " ++ loggerName line ++ " - " ++ line.level.name ++ " - " ++ line.message ++
    " [trace_id=" ++ traceId line ++ "]"

/-- A line as it is shown, at a time of day. -/
def render (l : Logging) (line : LogLine) (time : String) : Except Fault String :=
  if l.asJson then Json.show? false (document line time) else .ok (plain line time)

end Logging

end EventLedger
