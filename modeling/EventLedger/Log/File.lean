import EventLedger.Chain
import EventLedger.Json.Reader
import EventLedger.Log.Codec
import EventLedger.Log.Record
import EventLedger.Text.Blank

/-!
# The log in a file

A `FileLog` is a file with one record of a hash chain on each line, in its compact form, and a codec
for the events in it. Lines of blanks are skipped. The file may have been changed by others, so
nothing about its content is taken for granted: reading stops at the first line that is no record,
and an append that meets such a line writes nothing.

`append` encodes all events before it looks at the file, continues the sequence and the chain behind
the last line, and writes all lines at once.
-/

namespace EventLedger

/-- What a path leads to. -/
inductive FileState where
  | missing
  | file (content : List UInt8)
  | directory
deriving DecidableEq

/-- A log that is kept in a file. -/
structure FileLog (E : Type) where
  path : String
  codec : Codec E
  state : FileState

namespace FileLog

variable {E N : Type} [EntityName N]

/-- What an opened path leads to: a file that is missing is created. -/
def opened : FileState → FileState
  | .missing => .file []
  | state => state

/-- Opens the log at a path, which must not be empty and have no character that is zero. -/
def openAt (path : String) (codec : Codec E) (state : FileState) : Except Fault (FileLog E) :=
  if path.isEmpty then .error .noFile
  else if path.toList.contains '\x00' then .error (.invalid .zeroInPath)
  else .ok ⟨path, codec, opened state⟩

/-- The end of a line. -/
def newline : UInt8 := 0x0A

/-- The parts of the content between newlines; a newline at the end is followed by an empty part. -/
def splitLines : List UInt8 → List (List UInt8)
  | [] => [[]]
  | b :: bs =>
    if b = newline then [] :: splitLines bs
    else
      match splitLines bs with
      | [] => [[b]]
      | line :: lines => (b :: line) :: lines

/-- A line together with its newline, unless it is the last one. -/
def terminated : List (List UInt8) → List (List UInt8)
  | [] => []
  | [last] => [last]
  | line :: lines => (line ++ [newline]) :: terminated lines

/-- The lines of a file that are not blank, each with its newline. -/
def contentLines (content : List UInt8) : List (List UInt8) :=
  (terminated (splitLines content)).filter fun line => !line.all Text.isBlankByte

/-- The document on a line. -/
def parseLine (line : List UInt8) : Except Fault Value := do
  let ps ← (Text.decode line).mapError fun error => .encoding (.decoding error)
  (Json.readPoints ps).mapError .syntaxError

/-- The documents on the lines of a file, each read when it is its turn. -/
def rawRecords : FileState → List (Except Fault Value)
  | .missing => [.error .noFile]
  | .directory => [.error .isDirectory]
  | .file content => (contentLines content).map parseLine

/-- All documents in the file. -/
def allRecords (log : FileLog E) : Except Fault (List Value) :=
  (rawRecords log.state).mapM id

/-- The sequence number and the hash of the last record, as they are stored. -/
def lastFrom (seq hash : Value) : List (Except Fault Value) → Except Fault (Value × Value)
  | [] => .ok (seq, hash)
  | record :: records => do
    let record ← record
    let seq ← Chain.require "seq" (← Chain.require "event" record)
    let hash ← Chain.require "event_hash" record
    lastFrom seq hash records

/-- The sequence number and the hash that an append continues. -/
def last (state : FileState) : Except Fault (Value × Value) :=
  lastFrom Seq.beforeFirst.toValue (.str Chain.zeroHash) (rawRecords state)

/-- The hash of the last record, as it is stored. -/
def lastHash (log : FileLog E) : Except Fault Value :=
  return (← last log.state).2

/-- Checks the hash chain of the file, and counts its records. -/
def verify (log : FileLog E) : Except Fault Nat :=
  Chain.verify (rawRecords log.state)

/-- The record of `entity` in a stored document, if it belongs to that entity and is not before
`start`. -/
def readRecord (codec : Codec E) (entity : N) (start : Int) (document : Value) :
    Except Fault (Option (Record E N)) := do
  let event ← Chain.require "event" document
  match Seq.ofValue? (← Chain.require "seq" event) with
  | none => throw .mistyped
  | some seq =>
    if seq.isBelow start then return none
    if !EntityName.isStored entity (← Chain.require "entity_id" event) then return none
    let name ← Chain.require "type" event
    let payload ← Chain.lookup "payload" (.map []) event
    return some ⟨entity, seq, ← codec.decodeStored name payload⟩

/-- Reads the records of one entity up to the first fault. -/
def readFrom (codec : Codec E) (entity : N) (start : Int) :
    List (Except Fault Value) → Reading E N
  | [] => { records := [] }
  | document :: documents =>
    match document >>= readRecord codec entity start with
    | .error fault => { records := [], fault := some fault }
    | .ok none => readFrom codec entity start documents
    | .ok (some record) => (readFrom codec entity start documents).cons record

/-- The records of one entity with sequence numbers from `start` on. -/
def read (log : FileLog E) (entity : N) (start : Int) : Reading E N :=
  readFrom log.codec entity start (rawRecords log.state)

/-! ## Appending -/

/-- The event data of a record. -/
def eventData (entity : N) (seq : Seq) (name : String) (payload : Value) : Value :=
  .record [("entity_id", EntityName.stored entity), ("seq", seq.toValue), ("type", .str name),
    ("payload", payload)]

/-- The lines for encoded events behind a last sequence number and hash. `offset` counts the events
already written. -/
def chainLines (entity : N) (last : Value) (offset : Nat) (hash : Value) :
    List (String × Value) → Except Fault (List (Seq × List Char))
  | [] => .ok []
  | (name, payload) :: events => do
    match Seq.ofValue? last with
    | none => throw .mistyped
    | some last =>
      let seq := last.next offset
      match hash with
      | .str previous =>
        let (hash, record) ← Chain.link previous (eventData entity seq name payload)
        let line ← record.canonicalChars
        let lines ← chainLines entity last.toValue (offset + 1) (.str hash) events
        return (seq, line) :: lines
      | .broken b => throw (.encoding (.encoding (.of b.points)))
      | _ => throw .missingPart

/-- The bytes of lines, each with its newline. -/
def lineBytes (lines : List (List Char)) : List UInt8 :=
  lines.flatMap fun line => Text.encode line ++ [newline]

/-- The receipt for events that were stored under sequence numbers. -/
def receipt (entity : N) (seqs : List Seq) (events : List E) : Receipt E N where
  records := (seqs.zip events).map fun p => ⟨entity, p.1, p.2⟩

/-- Appends encoded events behind the content of a file. -/
def appendContent (entity : N) (content : List UInt8) (encoded : List (String × Value)) :
    Except Fault (List Seq × List UInt8) := do
  let (seq, hash) ← last (.file content)
  let lines ← chainLines entity seq 0 hash encoded
  return (lines.map (·.1), content ++ lineBytes (lines.map (·.2)))

/-- Appends events of one entity: all of them, or none. A file that is missing is created even if
nothing can be appended to it. -/
def append [HasFields E] (log : FileLog E) (entity : N) (events : List E) :
    Except Fault (Receipt E N) × FileLog E :=
  if events.isEmpty then (.error (.store .nothingToAppend), log)
  else
    match events.mapM log.codec.encode with
    | .error fault => (.error fault, log)
    | .ok encoded =>
      let write (content : List UInt8) : Except Fault (Receipt E N) × FileLog E :=
        match appendContent entity content encoded with
        | .error fault => (.error fault, { log with state := .file content })
        | .ok (seqs, content) =>
          (.ok (receipt entity seqs events), { log with state := .file content })
      match log.state with
      | .missing => write []
      | .file content => write content
      | .directory => (.error (.store (.isDirectory log.path)), log)

end FileLog

end EventLedger
