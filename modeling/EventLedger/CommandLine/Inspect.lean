import EventLedger.Account.Codec
import EventLedger.Account.Tables
import EventLedger.CommandLine.Surroundings

/-!
# Looking at the log from the command line

`showReplay` rebuilds the state of an account, `showTail` lists the last records of the log, and
`showVerify` checks its hash chain. None of them changes the log, except that a log that is missing
is created.
-/

namespace EventLedger.CommandLine

open Account (State Event)

/-- Shows a state that was rebuilt from the log. -/
def showRecovered (width : Nat) (asJson : Bool) (account : String) (recovered : Recovered State) :
    Except Stop Ending := do
  let hash ← orStop recovered.state.hash
  let description ← orStop recovered.state.describe
  if asJson then
    let fields := [("account", Value.str account), ("events_replayed", .int recovered.applied),
      ("last_seq", recovered.lastSeq.toValue), ("state", description), ("state_hash", .str hash)]
    return { out := ← document true (.record fields) }
  let heading ← printed width
    ("[green]✓ Replayed " ++ Text.natText recovered.applied ++ " events[/green]")
  let entries ← match description with
    | .map entries => orStop (Value.sortByKey entries)
    | _ => pure []
  let rows := entries.map (fun e => ["[bold]" ++ e.1.text ++ "[/bold]", e.2.text]) ++
    [["[bold]state_hash[/bold]", "[yellow]" ++ hash ++ "[/yellow]"]]
  return { out := heading ++ (← (Terminal.grid width rows).mapError .markup) }

/-- Rebuilds the state of an account. -/
def showReplay (width : Nat) (asJson : Bool) (config : Config) (account : String)
    (upTo : Option Int) (log : FileLog Event) : Except Stop Ending := do
  let policy ← orStop (Account.ClosedPolicy.ofName config.closedPolicy)
  let behavior := Account.behavior policy
  match Replay.replay behavior (log.read (behavior.persistenceId account) 0) upTo with
  | .ok recovered => showRecovered width asJson account recovered
  | .error failure => showError width asJson (← messageOf isRefusal failure)

/-- The last records, as many as are asked for: all if that is zero, and all but the first `n` if it
is `-n`. -/
def lastRecords (lines : Option Int) (records : List Value) : List Value :=
  match lines with
  | none | some 0 => records
  | some (.ofNat n) => records.drop (records.length - n)
  | some (.negSucc n) => records.drop (n + 1)

/-- A stored value in a cell; a value that is absent leaves it empty. -/
def cellOf : Value → Except Stop String
  | .str s => .ok s
  | .broken b => printable b.points
  | .null => .ok ""
  | _ => .error .notText

/-- How many characters of a hash are shown. -/
def shownHash : Nat := 16

/-- The start of a hash in a cell. -/
def hashCell : Value → Except Stop String
  | .str s => .ok (String.ofList (s.toList.take shownHash))
  | .broken b => printable (b.points.take shownHash)
  | .list _ => .error .notText
  | _ => .error (.fault .mistyped)

/-- The row of a record. -/
def recordRow (record : Value) : Except Stop (List String) := do
  let event ← orStop (Chain.require "event" record)
  let seq ← orStop (Chain.require "seq" event)
  let entity ← orStop (Chain.require "entity_id" event)
  let type ← orStop (Chain.require "type" event)
  let payload ← orStop (Chain.lookup "payload" (.map []) event)
  let payload ← orStop (Json.show? true payload)
  let hash ← hashCell (← orStop (Chain.require "event_hash" record))
  return [← printable seq.points, ← cellOf entity, ← cellOf type, payload, hash]

/-- The columns in which records are shown. -/
def recordColumns : List Terminal.Column :=
  [{ heading := "Seq", alignment := .right }, { heading := "Entity" }, { heading := "Type" },
    { heading := "Payload" }, { heading := "Hash (prefix)" }]

/-- Shows the last records of the log. -/
def showTail (width : Nat) (asJson : Bool) (config : Config) (lines : Option Int)
    (log : FileLog Event) : Except Stop Ending := do
  let records := lastRecords lines (← orStop log.allRecords)
  let count := records.length
  if asJson then
    let fields := [("events", Value.list records), ("count", .int count)]
    return { out := ← document true (.record fields) }
  if records.isEmpty then
    return { out := ← printed width "[yellow]Event log is empty[/yellow]" }
  let rows ← records.mapM recordRow
  let title := "Event Log: " ++ config.logPath
  let table ← (Terminal.sheet width title recordColumns rows).mapError .markup
  let total ← printed width ("\n[bold]Total events:[/bold] " ++ Text.natText count)
  return { out := table ++ total }

/-- Shows that the hash chain holds. -/
def showValid (width : Nat) (asJson : Bool) (count : Nat) : Except Stop Ending := do
  let out ← if asJson then
      document false (.record [("valid", .bool true), ("records", .int count)])
    else
      printed width ("[green]✓ Hash chain valid (" ++ Text.natText count ++ " records)[/green]")
  return { out := out }

/-- Shows that the hash chain is broken. -/
def showInvalid (width : Nat) (asJson : Bool) (message : List Text.Point) :
    Except Stop Ending := do
  let out ← if asJson then
      document false (.record [("valid", .bool false), ("error", .ofPoints message)])
    else printed width ("[red]✗ Hash chain invalid:[/red] " ++ (← printable message))
  return { exit := 1, out := out }

/-- Checks the hash chain. -/
def showVerify (width : Nat) (asJson : Bool) (log : FileLog Event) : Except Stop Ending :=
  match log.verify with
  | .ok count => showValid width asJson count
  | .error fault =>
    if isRefusal fault then showInvalid width asJson fault.wording else .error (.fault fault)

/-- Opens the log and shows something of it. -/
def runOnLog (around : Surroundings) (invocation : Invocation) (state : FileState)
    (look : Config → FileLog Event → Except Stop Ending) : Report :=
  match settings around.environment invocation with
  | .error fault => .make state [] (.error (.fault fault))
  | .ok config =>
    match FileLog.openAt config.logPath Account.codec state with
    | .error fault => .make state [] (.error (.fault fault))
    | .ok log => .make log.state [] (look config log)

end EventLedger.CommandLine
