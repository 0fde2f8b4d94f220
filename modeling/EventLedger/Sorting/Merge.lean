import EventLedger.Sorting.Gallop

/-!
# Merging runs

`mergeRuns` merges two neighboring runs. The items of the first run that come before the second one
stay, and so do the items of the second run that come behind the first one. What is left of the
shorter run moves into the other, from the front or, mirrored, from the end. Items are taken one by
one until one of the runs wins some times in a row; then items are taken by galloping for as long as
that pays off. How many times a run has to win is learned from one merge to the next.
-/

namespace EventLedger.Sorting

variable {α ε : Type}

/-- Two runs at work, seen from the end where they are merged. -/
structure Merging (α : Type) where
  /-- The items that have their place. -/
  taken : List α := []
  /-- The rest of the shorter run. -/
  short : List α
  /-- The rest of the other run. -/
  other : List α

namespace Merging

/-- Whether no more items have to be compared: the last item of the shorter run comes behind the
other run. -/
def isDone (m : Merging α) : Bool :=
  m.short.length ≤ 1 || m.other.isEmpty

/-- All items, when no more have to be compared. -/
def all (m : Merging α) : List α :=
  m.taken ++ m.other ++ m.short

/-- Takes items of the shorter run. -/
def takeShort (m : Merging α) (n : Nat) : Merging α :=
  { m with taken := m.taken ++ m.short.take n, short := m.short.drop n }

/-- Takes items of the other run. -/
def takeOther (m : Merging α) (n : Nat) : Merging α :=
  { m with taken := m.taken ++ m.other.take n, other := m.other.drop n }

end Merging

/-- How to merge: from which end, and whether an item of the other run is taken before an item of
the shorter one. -/
structure Contest (α ε : Type) where
  mirrored : Bool
  otherWins : (short other : α) → Except ε Bool

namespace Contest

/-- Takes all items of the shorter run that come before the next item of the other run, and then
that item; and says how many they are. -/
def leapShort (contest : Contest α ε) (m : Merging α) : Except ε (Merging α × Nat) :=
  match m.other with
  | [] => .ok (m, 0)
  | o :: _ =>
    if m.isDone then .ok (m, 0)
    else do
      let test := fun s => return !(← contest.otherWins s o)
      let n ← countFront contest.mirrored test m.short
      let m := m.takeShort n
      return (if m.isDone then m else m.takeOther 1, n)

/-- Takes all items of the other run that come before the next item of the shorter run, and then
that item; and says how many they are. -/
def leapOther (contest : Contest α ε) (m : Merging α) : Except ε (Merging α × Nat) :=
  match m.short with
  | [] => .ok (m, 0)
  | s :: _ =>
    if m.isDone then .ok (m, 0)
    else do
      let n ← countFront contest.mirrored (contest.otherWins s) m.other
      let m := m.takeOther n
      return (if m.isDone then m else m.takeShort 1, n)

/-- One leap of each run, and the size of the greater one. -/
def leap (contest : Contest α ε) (m : Merging α) : Except ε (Merging α × Nat) := do
  if contest.mirrored then
    let (m, a) ← contest.leapOther m
    let (m, b) ← contest.leapShort m
    return (m, max a b)
  else
    let (m, a) ← contest.leapShort m
    let (m, b) ← contest.leapOther m
    return (m, max a b)

end Contest

/-- How far a leap has to go to pay off, and how often a run has to win at first. -/
def payingLeap : Nat := 7

/-- How items are taken. -/
inductive Pace where
  /-- One by one; the runs have won so many times in a row. -/
  | steps (shortRow otherRow : Nat)
  /-- By galloping, for the `first` time in a row or not. -/
  | leaps (first : Bool)

/-- The items of two runs in order, and how often a run has to win in the next merge. `eagerness` is
how often a run has to win in this one, and `fuel` bounds the number of rounds, each of which takes
an item. -/
def race (contest : Contest α ε) : (fuel eagerness : Nat) → Pace → Merging α →
    Except ε (List α × Nat)
  | 0, eagerness, _, m => .ok (m.all, eagerness)
  | fuel + 1, eagerness, pace, m =>
    match pace, m.short, m.other with
    | .steps shortRow otherRow, s :: _ :: _, o :: _ => do
      if ← contest.otherWins s o then
        let pace := if eagerness ≤ otherRow + 1 then .leaps true else .steps 0 (otherRow + 1)
        race contest fuel eagerness pace (m.takeOther 1)
      else
        let pace := if eagerness ≤ shortRow + 1 then .leaps true else .steps (shortRow + 1) 0
        race contest fuel eagerness pace (m.takeShort 1)
    | .leaps first, _ :: _ :: _, _ :: _ => do
      let eagerness := if first then eagerness else max 1 (eagerness - 1)
      let (m, size) ← contest.leap m
      if m.isDone then return (m.all, eagerness)
      else if payingLeap ≤ size then race contest fuel eagerness (.leaps false) m
      else race contest fuel (eagerness + 1) (.steps 0 0) m
    | _, _, _ => .ok (m.all, eagerness)

/-- Merges two runs of which the first item of the other one comes first. -/
def mergeFrom (contest : Contest α ε) (eagerness : Nat) (short other : List α) :
    Except ε (List α × Nat) :=
  race contest (short.length + other.length) eagerness (.steps 0 0)
    ((Merging.mk [] short other).takeOther 1)

/-- The items of two neighboring runs in order, and how often a run has to win in the next merge. -/
def mergeRuns (less : α → α → Except ε Bool) (eagerness : Nat) (xs ys : List α) :
    Except ε (List α × Nat) := do
  match ys with
  | [] => return (xs, eagerness)
  | y :: _ =>
    let before ← countFront false (fun x => return !(← less y x)) xs
    let front := xs.take before
    let xs := xs.drop before
    match xs.getLast? with
    | none => return (front ++ ys, eagerness)
    | some x =>
      let behind ← countFront true (fun y => return !(← less y x)) ys.reverse
      let back := ys.drop (ys.length - behind)
      let ys := ys.take (ys.length - behind)
      if ys.isEmpty then return (front ++ xs ++ back, eagerness)
      else if xs.length ≤ ys.length then
        let (merged, eagerness) ← mergeFrom ⟨false, fun s o => less o s⟩ eagerness xs ys
        return (front ++ merged ++ back, eagerness)
      else
        let (merged, eagerness) ←
          mergeFrom ⟨true, fun s o => less s o⟩ eagerness ys.reverse xs.reverse
        return (front ++ merged.reverse ++ back, eagerness)

end EventLedger.Sorting
