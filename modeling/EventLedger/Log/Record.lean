import EventLedger.Log.Seq

/-!
# Records of a log

A log keeps `Record`s: events, numbered in one sequence for all entities. An append is answered by a
`Receipt` with the records that are now durable. Reading yields a `Reading`: records in order and,
if the log cannot be read to its end, the fault that was met behind them.

The names of entities are texts. A log asks no more of them than an `EntityName` says, so that a
text of code points with halves among them can be a name as well.
-/

namespace EventLedger

/-- What a log has to know of the names of entities. -/
class EntityName (N : Type) where
  /-- A name as it is stored. -/
  stored : N → Value
  /-- Whether a stored value is the name. -/
  isStored : N → Value → Bool

instance : EntityName String where
  stored := .str
  isStored name v := v.isStr name

instance : EntityName (List Text.Point) where
  stored := .ofPoints
  isStored name v := v.textPoints? == some name

/-- One stored event. -/
structure Record (E : Type) (N : Type := String) where
  /-- The name of the entity in the log. -/
  entity : N
  seq : Seq
  event : E
deriving DecidableEq

/-- The answer to an append: the stored records, in order. -/
structure Receipt (E : Type) (N : Type := String) where
  records : List (Record E N)
deriving DecidableEq

/-- The sequence number of the last record. -/
def Receipt.lastSeq {E N : Type} (r : Receipt E N) : Seq :=
  (r.records.getLast?.map Record.seq).getD .beforeFirst

/-- The records that were read, and the fault that ended the reading. -/
structure Reading (E : Type) (N : Type := String) where
  records : List (Record E N)
  fault : Option Fault := none

/-- A reading of one more record in front. -/
def Reading.cons {E N : Type} (record : Record E N) (reading : Reading E N) : Reading E N :=
  { reading with records := record :: reading.records }

end EventLedger
