import EventLedger.CommandLine.Inspect
import EventLedger.CommandLine.Submit
import EventLedger.Log.Disk

/-!
# Runs of the command line

`run` does what a command line asks for, given the surroundings and the log file, and reports what
came of it. It is the whole program but for reading and writing. `runOn` finds the log on a disk and
leaves it there.
-/

namespace EventLedger.CommandLine

/-- The version of the program. -/
def versionText : String := "v0.1.0"

/-- Shows the version. -/
def showVersion (width : Nat) : Except Stop Ending := do
  let rows := [["[bold]evsource[/bold]", versionText]]
  return { out := ← (Terminal.grid width rows).mapError .markup }

/-- The lines that explain the commands. -/
def helpLines : List String :=
  ["usage: evsource [--log-level LEVEL] [--log-format FORMAT] COMMAND",
    "commands:",
    "  account create|balance|close ACCOUNT [--log PATH] [--json]",
    "  account deposit|withdraw ACCOUNT AMOUNT [--log PATH] [--json]",
    "  replay ACCOUNT [--log PATH] [--until SEQ] [--json]",
    "  log tail [--log PATH] [--lines COUNT] [--json]",
    "  log verify [--log PATH] [--json]",
    "  version"]

/-- Does what a command line asks for, with the log in the given state. -/
def run (around : Surroundings) (words : List String) (state : FileState) : Report :=
  match Invocation.ofWords words with
  | .error error => .make state [] (.error (.usage error))
  | .ok invocation =>
    match invocation.task with
    | .submit account operation => runSubmit around invocation account operation state
    | .replay account upTo =>
      runOnLog around invocation state fun config log =>
        showReplay around.width invocation.asJson config account upTo log
    | .tail lines =>
      runOnLog around invocation state fun config log =>
        showTail around.width invocation.asJson config lines log
    | .verify =>
      runOnLog around invocation state fun _ log => showVerify around.width invocation.asJson log
    | .version => .make state [] (showVersion around.width)
    | .help => .make state [] (.ok { out := helpLines })

/-- Does what a command line asks for on a disk. -/
def runOn (around : Surroundings) (words : List String) (disk : Disk) : Report × Disk :=
  match logPath? around.environment words with
  | none => (run around words .missing, disk)
  | some path =>
    match disk.prepare path with
    | (disk, some fault) => (.make .missing [] (.error (.fault fault)), disk)
    | (disk, none) =>
      let report := run around words (disk.stateAt path)
      (report, disk.store path report.log)

end EventLedger.CommandLine
