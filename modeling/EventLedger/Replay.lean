import EventLedger.Behavior
import EventLedger.Chain
import EventLedger.Log.Record

/-!
# Replay

The state of an entity is nothing but the fold of its events. `replay` folds the records that a log
yields, up to a sequence number if one is given, and says how many events it folded and which was
the last.
-/

namespace EventLedger

/-- A state rebuilt from events. -/
structure Recovered (S : Type) where
  state : S
  /-- How many events were folded. -/
  applied : Nat := 0
  /-- The sequence number of the last folded event. -/
  lastSeq : Seq := .beforeFirst
deriving DecidableEq

namespace Replay

variable {S C E R : Type} [HasKind S] [HasKind E]

/-- Folds records onto what is recovered so far. A fault behind the records counts only if the fold
gets there. -/
def resume (applier : Applier S E) (upTo : Option Int) (fault : Option Fault)
    (recovered : Recovered S) : List (Record E) → Except (Failure S E) (Recovered S)
  | [] =>
    match fault with
    | some fault => .error (.fault fault)
    | none => .ok recovered
  | record :: records =>
    if upTo.any record.seq.isAbove then .ok recovered
    else do
      let state ← applier.apply recovered.state record.event
      resume applier upTo fault ⟨state, recovered.applied + 1, record.seq⟩ records

/-- The state that a reading of the log leads to. -/
def replay (behavior : Behavior S C E R) (reading : Reading E) (upTo : Option Int) :
    Except (Failure S E) (Recovered S) :=
  resume behavior.applier upTo reading.fault { state := behavior.emptyState } reading.records

end Replay

/-- The hash of a state that is described by a document. -/
def stateHash (description : Except Fault Value) : Except Fault String := do
  return Sha256.hexDigest (← (← description).canonicalBytes)

end EventLedger
