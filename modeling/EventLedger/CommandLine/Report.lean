import EventLedger.CommandLine.Options
import EventLedger.Json.Writer
import EventLedger.Log.File
import EventLedger.Terminal.Table

/-!
# What a run of the command line leaves behind

A `Report` is all that can be seen of a run: its exit status, the lines it printed, and the log file
afterwards. A run that breaks off says why with a `Stop`. What it would have printed is then lost,
all but the log lines.
-/

namespace EventLedger.CommandLine

open Terminal (MarkupFault)

/-- Why a run breaks off. -/
inductive Stop where
  /-- The command line cannot be understood. -/
  | usage (error : UsageError)
  | fault (cause : Fault)
  /-- A text that is to be printed has a tag that closes nothing. -/
  | markup (cause : MarkupFault)
  /-- A cell of a table is not a text. -/
  | notText
deriving DecidableEq

/-- The wording of a markup fault. -/
def markupMessage : MarkupFault → String
  | .unmatched name => "closing tag without an opening tag: " ++ String.ofList name
  | .nothingToClose => "closing tag has nothing to close"
  | .badHandler handler => "tag with a handler that cannot be read: " ++ String.ofList handler
  | .missingPart => "invalid literal for int() with base 10: ''"

/-- The wording of a stop. -/
def Stop.message : Stop → String
  | .usage error => error.message
  | .fault cause => cause.message
  | .markup cause => markupMessage cause
  | .notText => "a cell of a table must be a text"

/-- The exit status of a run that breaks off. -/
def Stop.exit : Stop → Nat
  | .usage _ => 2
  | _ => 1

/-- What a run prints at its end, and its exit status. -/
structure Ending where
  exit : Nat := 0
  out : List String := []
  err : List String := []
deriving DecidableEq

/-- All that can be seen of a run. -/
structure Report where
  exit : Nat := 0
  /-- The lines on standard output. -/
  out : List String := []
  /-- The lines on standard error. -/
  err : List String := []
  stop : Option Stop := none
  /-- The log file after the run. -/
  log : FileState
deriving DecidableEq

/-- The report on a run that ended or broke off, behind its log lines. -/
def Report.make (log : FileState) (logLines : List String) : Except Stop Ending → Report
  | .ok ending => ⟨ending.exit, ending.out, logLines ++ ending.err, none, log⟩
  | .error stop => ⟨stop.exit, [], logLines, some stop, log⟩

/-- A computation whose faults end the run. -/
def orStop {α : Type} (result : Except Fault α) : Except Stop α :=
  result.mapError .fault

/-- The lines of a marked-up text. -/
def printed (width : Nat) (markup : String) : Except Stop (List String) :=
  (Terminal.printed width markup).mapError .markup

/-- A text for standard output, which takes no halves of characters. -/
def printable (ps : List Text.Point) : Except Stop String :=
  return String.ofList (← orStop (Json.wholeText ps))

/-- A document on a line; the members of a `sorted` one are in the order of their names. -/
def document (sorted : Bool) (v : Value) : Except Stop (List String) := do
  return [← orStop (Json.show? sorted v)]

end EventLedger.CommandLine
