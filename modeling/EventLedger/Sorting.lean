import EventLedger.Sorting.Merge
import EventLedger.Sorting.Run

/-!
# Sorting with comparisons that may fail

`sortWith` puts a list in order by a comparison that may stop with an error or contradict itself.
It cuts the list into runs and merges neighboring runs of about the same size. Which items are
compared, and so which error stops it and where items without an order end up, depends on nothing
but the order of the input.
-/

namespace EventLedger.Sorting

variable {α ε : Type}

/-- How long runs have to be at least, so that their number is a power of two or a little less.
Lists below 64 items are one run. -/
def minRun (size : Nat) (odd : Nat := 0) : Nat :=
  if size < 64 then size + odd else minRun (size / 2) (max odd (size % 2))
termination_by size

/-- The place of the first binary digit in which `a / size` and `b / size` differ, where both are
below two. `fuel` bounds the number of digits. -/
def firstDifference (size : Nat) : (fuel a b : Nat) → Nat
  | 0, _, _ => 0
  | fuel + 1, a, b =>
    if size ≤ a then firstDifference size fuel (2 * (a - size)) (2 * (b - size)) + 1
    else if size ≤ b then 1
    else firstDifference size fuel (2 * a) (2 * b) + 1

/-- The power of the boundary between two neighboring runs in a list of `size` items: how often the
list has to be halved until the middles of the runs lie in different parts. -/
def power (size start first second : Nat) : Nat :=
  firstDifference size size (2 * start + first) (2 * start + first + first + second)

/-- A run that waits to be merged. -/
structure Pending (α : Type) where
  items : List α
  /-- The place of its first item in the list. -/
  start : Nat
  /-- The power of the boundary behind it. -/
  power : Nat := 0

/-- Merges the runs that wait, the last one first, while a boundary between them has a greater power
than the boundary behind them. -/
def mergeAbove (less : α → α → Except ε Bool) (bound eagerness : Nat) :
    List (Pending α) → Except ε (List (Pending α) × Nat)
  | [] => .ok ([], eagerness)
  | [last] => .ok ([{ last with power := bound }], eagerness)
  | last :: previous :: pending => do
    if bound < previous.power then
      let (items, eagerness) ← mergeRuns less eagerness previous.items last.items
      mergeAbove less bound eagerness ({ previous with items } :: pending)
    else return ({ last with power := bound } :: previous :: pending, eagerness)
termination_by pending => pending.length

/-- Merges all runs that wait, the last one first. -/
def mergeAll (less : α → α → Except ε Bool) (eagerness : Nat) :
    List (Pending α) → Except ε (List α)
  | [] => .ok []
  | [last] => .ok last.items
  | [last, previous] => return (← mergeRuns less eagerness previous.items last.items).1
  | last :: previous :: first :: pending => do
    if first.items.length < last.items.length then
      let (items, eagerness) ← mergeRuns less eagerness first.items previous.items
      mergeAll less eagerness (last :: { first with items } :: pending)
    else
      let (items, eagerness) ← mergeRuns less eagerness previous.items last.items
      mergeAll less eagerness ({ previous with items } :: first :: pending)
termination_by pending => pending.length

/-- The items in order: those of the runs that wait, and the rest of the list. `fuel` bounds the
number of runs in the rest. -/
def sortRuns (less : α → α → Except ε Bool) (size : Nat) :
    (fuel eagerness : Nat) → List (Pending α) → List α → Except ε (List α)
  | 0, eagerness, pending, _ => mergeAll less eagerness pending
  | fuel + 1, eagerness, pending, rest => do
    if rest.isEmpty then mergeAll less eagerness pending
    else
      let start := size - rest.length
      let (items, rest) ← nextRun less (minRun size) rest
      match pending with
      | [] => sortRuns less size fuel eagerness [⟨items, start, 0⟩] rest
      | last :: _ =>
        let bound := power size last.start last.items.length items.length
        let (pending, eagerness) ← mergeAbove less bound eagerness pending
        sortRuns less size fuel eagerness (⟨items, start, 0⟩ :: pending) rest

/-- The items in order. -/
def sortWith (less : α → α → Except ε Bool) (xs : List α) : Except ε (List α) :=
  sortRuns less xs.length xs.length payingLeap [] xs

end EventLedger.Sorting
