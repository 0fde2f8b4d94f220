import EventLedger.Canonical
import EventLedger.Sha256

/-!
# The hash chain

Each stored record holds the event data, the hash of the record before it, and its own hash: SHA-256
over the previous hash followed by the canonical text of the event data. The first record follows
`zeroHash`.

`verify` goes along a chain and returns its length, or the fault at the first record that does not
continue it.
-/

namespace EventLedger.Chain

/-- The hash before the first record. -/
def zeroHash : String :=
  String.ofList (List.replicate 64 '0')

/-- The hash of event data behind a previous hash. -/
def hashRecord (previous : String) (event : Value) : Except Fault String := do
  return Sha256.hexDigest (Text.bytesOf previous ++ (← event.canonicalBytes))

/-- The record with the given parts. -/
def recordOf (previous hash : String) (event : Value) : Value :=
  .record [("prev_hash", .str previous), ("event_hash", .str hash), ("event", event)]

/-- A record of event data behind a previous hash, and the hash of the record. -/
def link (previous : String) (event : Value) : Except Fault (String × Value) := do
  let hash ← hashRecord previous event
  return (hash, recordOf previous hash event)

/-- The entry of a map under a key, or `default`; only maps have entries. -/
def lookup (key : String) (default : Value) : Value → Except Fault Value
  | .map entries => .ok ((Value.get? key entries).getD default)
  | _ => .error .missingPart

/-- The entry that a map has to have under a key. -/
def require (key : String) : Value → Except Fault Value
  | .map entries =>
    match Value.get? key entries with
    | some v => .ok v
    | none => .error .missingEntry
  | _ => .error .mistyped

/-- Checks one record behind the hash `previous`, and returns its hash. -/
def verifyRecord (previous : String) (record : Value) : Except Fault String := do
  let seq ← lookup "seq" .null (← lookup "event" (.map []) record)
  let stored ← lookup "prev_hash" .null record
  if !stored.isStr previous then
    throw (.chain (.brokenLink seq.points))
  let stored ← lookup "event_hash" .null record
  let hash ← hashRecord previous (← require "event" record)
  if !stored.isStr hash then
    throw (.chain (.wrongHash seq.points))
  return hash

/-- Checks records behind the hash `previous`, each read when it is its turn, and counts them. -/
def verifyFrom (previous : String) : List (Except Fault Value) → Except Fault Nat
  | [] => .ok 0
  | record :: records => do
    let hash ← verifyRecord previous (← record)
    return (← verifyFrom hash records) + 1

/-- Checks a chain from its start, and returns its length. -/
def verify (records : List (Except Fault Value)) : Except Fault Nat :=
  verifyFrom zeroHash records

end EventLedger.Chain
