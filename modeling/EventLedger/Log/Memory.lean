import EventLedger.Log.Record

/-!
# The log in memory

A `MemoryLog` is the list of all records in the order of their appends. The sequence number of a
record is its place in the list.
-/

namespace EventLedger

/-- A log that is kept in memory. -/
structure MemoryLog (E : Type) (N : Type := String) where
  records : List (Record E N) := []

namespace MemoryLog

variable {E N : Type}

/-- Events of one entity as records numbered from `base`. -/
def recordsFrom (entity : N) (base : Nat) (events : List E) : List (Record E N) :=
  events.mapIdx fun i event => ⟨entity, .whole (base + i), event⟩

/-- Appends events of one entity. -/
def append (log : MemoryLog E N) (entity : N) (events : List E) :
    Except Fault (Receipt E N) × MemoryLog E N :=
  if events.isEmpty then (.error (.store .nothingToAppend), log)
  else
    let records := recordsFrom entity log.records.length events
    (.ok ⟨records⟩, ⟨log.records ++ records⟩)

/-- The records of one entity with sequence numbers from `start` on. -/
def read [BEq N] (log : MemoryLog E N) (entity : N) (start : Int) : Reading E N where
  records := log.records.filter fun r => r.entity == entity && !r.seq.isBelow start

/-- The number of records. -/
def size (log : MemoryLog E N) : Nat :=
  log.records.length

end MemoryLog

end EventLedger
