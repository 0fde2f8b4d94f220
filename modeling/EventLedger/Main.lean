import EventLedger.CommandLine.Run
import Std.Time

/-!
# The program

Reads the surroundings of a run and the log file, lets `CommandLine.run` do the work, appends to the
log file what the run added to it, and prints the report.
-/

namespace EventLedger.Program

open CommandLine

/-- The variables that a run looks at. -/
def variableNames : List String :=
  ["EVSOURCE_LOG_PATH", "EVSOURCE_UNHANDLED_POLICY", "EVSOURCE_CLOSED_POLICY", "EVSOURCE_LOG_LEVEL",
    "EVSOURCE_LOG_FORMAT"]

/-- The values of the variables that are set. -/
def readEnvironment : IO Environment :=
  variableNames.filterMapM fun key => do return (← IO.getEnv key).map fun value => (key, value)

/-- What a run finds around it. -/
def readSurroundings : IO Surroundings := do
  let now ← Std.Time.PlainDateTime.now
  return {
    environment := ← readEnvironment
    width := ((← IO.getEnv "COLUMNS").bind String.toNat?).getD 80
    time := now.format "uuuu-MM-dd HH:mm:ss"
    fraction := now.format ",SSS" }

/-- The directory of a path. -/
def directoryOf (path : String) : String :=
  String.intercalate "/" (path.splitOn "/").dropLast

/-- What a path leads to, once the directories above it are there. -/
def readState (path : String) : IO FileState := do
  let directory := directoryOf path
  if !directory.isEmpty then IO.FS.createDirAll directory
  match ← (IO.FS.readBinFile path).toBaseIO with
  | .ok bytes => return .file bytes.toList
  | .error (.noFileOrDirectory ..) => return .missing
  | .error (.inappropriateType ..) => return .directory
  | .error error => throw error

/-- Appends to the file at a path what a run added to it. -/
def writeState (path : String) (before after : FileState) : IO Unit := do
  match before, after with
  | .file old, .file new =>
    if old.length < new.length then append (new.drop old.length)
  | .missing, .file new => append new
  | _, _ => return
where
  append (bytes : List UInt8) : IO Unit := do
    let handle ← IO.FS.Handle.mk path .append
    handle.write ⟨bytes.toArray⟩
    handle.flush

/-- Prints a report. -/
def printReport (report : Report) : IO Unit := do
  for line in report.out do
    IO.println line
  for line in report.err do
    IO.eprintln line
  if let some stop := report.stop then
    IO.eprintln ("Error: " ++ stop.message)

/-- Does what a command line asks for, and returns the exit status. -/
def execute (words : List String) : IO UInt32 := do
  let around ← readSurroundings
  match logPath? around.environment words with
  | none =>
    let report := run around words .missing
    printReport report
    return report.exit.toUInt32
  | some path =>
    let before ← readState path
    let report := run around words before
    writeState path before report.log
    printReport report
    return report.exit.toUInt32

end EventLedger.Program

/-- Runs the command line. -/
def main (words : List String) : IO UInt32 :=
  EventLedger.Program.execute words
