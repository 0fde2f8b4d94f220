import EventLedger.CommandLine.Invocation
import EventLedger.CommandLine.Report
import EventLedger.Config

/-!
# Surroundings of a run

What a run of the command line finds around it, the settings that follow from that, and the log it
opens.

Some faults are answers: those with which the engine or the log refuses an operation, and, for a
command to an account, data that is not what it should be. `messageOf` tells them from the faults
that break a run off.
-/

namespace EventLedger.CommandLine

open Account (State Event)

/-- What a run finds around it. -/
structure Surroundings where
  environment : Environment
  /-- How many cells fit on a line of the terminal. -/
  width : Nat := 80
  /-- The time of day in log lines, to the second. -/
  time : String
  /-- The rest of the time of day in log lines that are documents. -/
  fraction : String := ""

/-- The settings for an invocation. -/
def settings (environment : Environment) (invocation : Invocation) : Except Fault Config := do
  let config ← Config.ofEnvironment environment
  match invocation.logPath.filter (!·.isEmpty) with
  | some path => Config.check { config with logPath := path }
  | none => return config

/-- The path of the log that a run opens, if it opens one. -/
def logPath? (environment : Environment) (words : List String) : Option String :=
  match Invocation.ofWords words with
  | .error _ => none
  | .ok invocation =>
    match invocation.task with
    | .version | .help => none
    | _ => (settings environment invocation).toOption.map (·.logPath)

/-- Whether the engine or the log refuses an operation. -/
def isRefusal : Fault → Bool
  | .unhandledCommand .. | .invalidEffect _ | .notAccepting .. | .busy .. => true
  | .store _ | .chain _ => true
  | _ => false

/-- Whether data is not what it should be. -/
def isInvalidData : Fault → Bool
  | .invalid _ | .syntaxError _ | .encoding _ => true
  | _ => false

/-- The message of a failure that is an answer; other failures break the run off. An event that does
not fit the state is always an answer. -/
def messageOf (isAnswer : Fault → Bool) : Failure State Event → Except Stop (List Text.Point)
  | .illegalFold state event => .ok (Failure.illegalFold state event).message
  | .fault cause => if isAnswer cause then .ok cause.wording else .error (.fault cause)

/-- Answers with an error. Standard error shows halves of characters by their escapes. -/
def showError (width : Nat) (asJson : Bool) (message : List Text.Point) : Except Stop Ending := do
  if asJson then
    return { exit := 2, out := ← document false (.record [("error", .ofPoints message)]) }
  return { exit := 2, err := ← printed width ("[red]Error:[/red] " ++ Text.shown message) }

end EventLedger.CommandLine
