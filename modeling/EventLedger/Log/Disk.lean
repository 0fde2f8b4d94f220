import EventLedger.Log.File
import EventLedger.Text.Separated

/-!
# Directories

A `Disk` holds the files and directories that there are, by the names on their paths. Before a log
is opened, `Disk.prepare` makes the directories above it: one after the other, from the outside in,
until one of them cannot be made. `Disk.stateAt` says what a path leads to.
-/

namespace EventLedger

/-- The names on the way to a file or directory. The first name is `/` if the way begins at the root
of all directories. -/
abbrev Location := List String

/-- Files and directories by their locations. -/
structure Disk where
  nodes : List (Location × FileState) := []

namespace Disk

/-- The names on a path, as they are written. -/
def namesOf (path : String) : List String :=
  (Text.separated '/' path.toList).map String.ofList

/-- The location that is one name further. -/
def step (location : Location) (name : String) : Location :=
  if name == "" || name == "." then location
  else if name == ".." && !location.isEmpty then location.dropLast
  else location ++ [name]

/-- Where names lead to. -/
def follow (path : String) (names : List String) : Location :=
  names.foldl step (if path.startsWith "/" then ["/"] else [])

/-- Where a path leads to. -/
def locate (path : String) : Location :=
  follow path (namesOf path)

/-- Where the directories above a path are, the outermost first. -/
def above (path : String) : List Location :=
  let names := (namesOf path).dropLast.filter (!·.isEmpty)
  (List.range names.length).map fun i => follow path (names.take (i + 1))

/-- What a location holds. The directory where everything begins is always there. -/
def get (disk : Disk) : Location → FileState
  | [] | ["/"] => .directory
  | location => (disk.nodes.lookup location).getD .missing

/-- The disk with something else at a location. -/
def put (disk : Disk) (location : Location) (state : FileState) : Disk :=
  ⟨(location, state) :: disk.nodes.filter (·.1 != location)⟩

/-- What a path leads to. -/
def stateAt (disk : Disk) (path : String) : FileState :=
  disk.get (locate path)

/-- The disk with a file at a path, if the state is that of a file. -/
def store (disk : Disk) (path : String) : FileState → Disk
  | .file content => disk.put (locate path) (.file content)
  | _ => disk

/-- How many bytes a name may have. -/
def maxName : Nat := 255

/-- How many bytes a path may have. -/
def maxPath : Nat := 4095

/-- Whether the last name of a location is too long. -/
def isLong (location : Location) : Bool :=
  location.getLast?.any (maxName < ·.utf8ByteSize)

/-- Makes the directories at the given locations, and says what stopped that. A file in the way of
the last one is in its place, and a file in the way of another one is no directory. -/
def makeAll (disk : Disk) : List Location → Disk × Option Fault
  | [] => (disk, none)
  | location :: locations =>
    if isLong location then (disk, some .nameTooLong)
    else
      match disk.get location with
      | .file _ => (disk, some (if locations.isEmpty then .fileExists else .notADirectory))
      | .directory => makeAll disk locations
      | .missing => makeAll (disk.put location .directory) locations

/-- Whether a name has a character that is zero. -/
def hasZero (name : String) : Bool :=
  name.toList.contains '\x00'

/-- Makes the directories above a path. Names with a character that is zero are names of nothing, so
that only directories in front of them are made, and the last of these may as well be a file. -/
def prepare (disk : Disk) (path : String) : Disk × Option Fault :=
  if maxPath < path.utf8ByteSize then (disk, some .nameTooLong)
  else
    let locations := above path
    let clean := locations.takeWhile fun location => !location.any hasZero
    match disk.makeAll clean with
    | (disk, some .fileExists) =>
      (disk, if clean.length < locations.length then none else some .fileExists)
    | (disk, some fault) => (disk, some fault)
    | (disk, none) =>
      (disk, if isLong (locate path) && !hasZero path then some .nameTooLong else none)

/-- Opens the log at a path. -/
def openLog {E : Type} (disk : Disk) (path : String) (codec : Codec E) :
    Disk × Except Fault (FileLog E) :=
  match disk.prepare path with
  | (disk, some fault) => (disk, .error fault)
  | (disk, none) =>
    match FileLog.openAt path codec (disk.stateAt path) with
    | .error fault => (disk, .error fault)
    | .ok log => (disk.store path log.state, .ok log)

end Disk

end EventLedger
