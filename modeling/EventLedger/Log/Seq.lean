import EventLedger.Value.Key

/-!
# Sequence numbers

A log numbers its events 0, 1, 2, …. A stored file may hold other numbers: a truth value counts as
zero or one, and a double as itself. `Seq` is any number that can stand in that place.
-/

namespace EventLedger

/-- A number in the place of a sequence number. -/
inductive Seq where
  | whole (i : Int)
  | flag (b : Bool)
  | real (d : Double)
deriving DecidableEq

namespace Seq

/-- The sequence number before the first event. -/
def beforeFirst : Seq := .whole (-1)

/-- The sequence number that a stored value is. -/
def ofValue? : Value → Option Seq
  | .int i => some (.whole i)
  | .bool b => some (.flag b)
  | .double d => some (.real d)
  | _ => none

/-- A sequence number as a stored value. -/
def toValue : Seq → Value
  | .whole i => .int i
  | .flag b => .bool b
  | .real d => .double d

/-- The order of a sequence number and a whole number; a NaN has none. -/
def order? (s : Seq) (i : Int) : Option Ordering :=
  match s with
  | .whole j => some (compare j i)
  | .flag b => some (compare (if b then 1 else 0) i)
  | .real d => d.orderInt? i

/-- Whether the sequence number is below `i`. -/
def isBelow (s : Seq) (i : Int) : Bool :=
  s.order? i == some .lt

/-- Whether the sequence number is above `i`. -/
def isAbove (s : Seq) (i : Int) : Bool :=
  s.order? i == some .gt

/-- The sequence number of the event at `offset` behind the event numbered `s`. -/
def next (s : Seq) (offset : Nat) : Seq :=
  match s with
  | .whole i => .whole (i + 1 + offset)
  | .flag b => .whole ((if b then 1 else 0) + 1 + offset)
  | .real d => .real ((d.add (.ofInt 1)).add (.ofInt offset))

/-- The whole number that messages show; a fraction is cut off. -/
def text : Seq → String
  | .whole i => Text.intText i
  | .flag b => if b then "1" else "0"
  | .real d =>
    match d.toInt? with
    | some i => Text.intText i
    | none => String.ofList (d.chars .message)

@[simp] theorem isBelow_whole (j i : Int) : (whole j).isBelow i = decide (j < i) := by
  simp only [isBelow, order?, compare, compareOfLessAndEq]
  grind

@[simp] theorem isAbove_whole (j i : Int) : (whole j).isAbove i = decide (i < j) := by
  simp only [isAbove, order?, compare, compareOfLessAndEq]
  grind

end Seq

end EventLedger
