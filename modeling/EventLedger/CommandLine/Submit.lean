import EventLedger.Account.Codec
import EventLedger.Account.Tables
import EventLedger.CommandLine.Surroundings
import EventLedger.Engine.Submit
import EventLedger.Logging.Setup

/-!
# Commands to accounts from the command line

`runSubmit` recovers an account from the log, gives it one command, and shows the reply. Exit status
0 says that the command was carried out, 1 that it was rejected or not handled, and 2 that it was
refused or met invalid data.
-/

namespace EventLedger.CommandLine

open Account (State Event Reply Operation)

/-- A log file, and what the engine reported while it worked on it. -/
structure Session where
  log : FileLog Event
  notices : List (String × Notice) := []

/-- The engine's view of a session. -/
def host : Host Session State Account.Command Event :=
  Host.ofLog (fun entity start s => s.log.read entity start)
    (fun entity events s =>
      let (answer, log) := s.log.append entity events
      (answer, { s with log := log }))
    (fun entity notice s => { s with notices := s.notices ++ [(entity, notice)] })

/-- The engine for the settings. -/
def engineOf (config : Config) : Except Fault (Engine State Account.Command Event Reply) := do
  let policy ← Account.ClosedPolicy.ofName config.closedPolicy
  return ⟨Account.behavior policy, ← UnhandledPolicy.ofName config.unhandledPolicy⟩

/-- An operation with a caller who waits for the reply. -/
def request (operation : Operation) : Request Session Account.Command Reply where
  command := .operation operation
  channel := some fun _ s => (none, s)
  answerable _ := rfl

/-- What came of a command, and the state of the account after it. -/
abbrev Answer := Outcome Event Reply × State

/-- Recovers an account and gives it a command. -/
def submit (config : Config) (account : String) (operation : Operation) (s : Session) :
    Except (Failure State Event) Answer × Session :=
  match engineOf config with
  | .error fault => (.error (.fault fault), s)
  | .ok engine =>
    match engine.activate host account s with
    | (.stopped _ failure, s) => (.error failure, s)
    | (.failed fault, s) => (.error (.fault fault), s)
    | (.active handle, s) =>
      let submission := engine.submit host handle (request operation) s
      (submission.result.map fun outcome => (outcome, submission.handle.state), submission.world)

/-- The document that shows a reply. -/
def replyFields : Reply → Except Fault (List (String × Value))
  | .rejected reason => return [("reply", .str "Rejected"), ("reason", .str reason)]
  | .currentBalance balance => do
    return [("reply", .str "CurrentBalance"), ("balance", .str (← liftSignal balance.canonical))]
  | reply => return [("reply", .str (kind reply))]

/-- The text that shows a reply. -/
def replyMarkup : Reply → Except Fault String
  | .rejected reason => return "[red]✗ Rejected:[/red] " ++ reason
  | .currentBalance balance => do
    return "Balance: [cyan]" ++ (← liftSignal balance.canonical) ++ "[/cyan]"
  | _ => return "[green]✓ Confirmed[/green]"

/-- Shows that a command was left without a reply. -/
def showUnhandled (width : Nat) (asJson : Bool) (account : String) : Except Stop Ending := do
  let out ← if asJson then
      document false
        (.record [("account", .str account), ("reply", .null), ("unhandled", .bool true)])
    else printed width ("[yellow]Command not handled for account " ++ account ++ "[/yellow]")
  return { exit := 1, out := out }

/-- Shows a reply. -/
def showReply (width : Nat) (asJson : Bool) (account : String) (state : State) (reply : Reply) :
    Except Stop Ending := do
  let out ← if asJson then do
      let fields ← orStop (replyFields reply)
      let description ← orStop state.describe
      document true (.record (fields ++ [("account", .str account), ("state", description)]))
    else do printed width (← orStop (replyMarkup reply))
  return { exit := if reply.isRejection then 1 else 0, out := out }

/-- Shows what came of a command. -/
def showAnswer (width : Nat) (asJson : Bool) (account : String) :
    Except (Failure State Event) Answer → Except Stop Ending
  | .ok (.replied reply _, state) => showReply width asJson account state reply
  | .ok (.noReply, _) => showUnhandled width asJson account
  | .error failure => do
    let message ← messageOf (fun fault => isRefusal fault || isInvalidData fault) failure
    showError width asJson message

/-- The name of the engine's logger. -/
def engineLogger : String := "evsource.engine"

/-- The log lines for notices. -/
def logLines (around : Surroundings) (invocation : Invocation) (notices : List (String × Notice)) :
    List String :=
  let level := (invocation.logLevel.filter (!·.isEmpty)).getD Level.warning.name
  let format := invocation.logFormat.getD "text"
  let logging := Logging.setup around.environment (some level) (some format)
  let time := if logging.asJson then around.time ++ around.fraction else around.time
  let lines := notices.map fun n => LogLine.mk engineLogger n.2.level n.2.message (some n.1)
  (lines.filter logging.shows).filterMap fun line => (logging.render line time).toOption

/-- Gives a command to an account. -/
def runSubmit (around : Surroundings) (invocation : Invocation) (account : String)
    (operation : Operation) (state : FileState) : Report :=
  let ending := showAnswer around.width invocation.asJson account
  match settings around.environment invocation with
  | .error fault => .make state [] (ending (.error (.fault fault)))
  | .ok config =>
    match FileLog.openAt config.logPath Account.codec state with
    | .error fault => .make state [] (ending (.error (.fault fault)))
    | .ok log =>
      let (answer, s) := submit config account operation { log := log }
      .make s.log.state (logLines around invocation s.notices) (ending answer)

end EventLedger.CommandLine
