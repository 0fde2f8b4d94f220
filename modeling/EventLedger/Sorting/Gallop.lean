/-!
# Galloping

`countFront` counts the items at the front of a list that pass a test, where all that pass stand in
front of all that do not. It asks the items at the places 0, 1, 3, 7 and so on, until one does not
pass, and then halves the part between the last two places. If the items are not in such an order,
the answer depends on which of them are asked.
-/

namespace EventLedger.Sorting

variable {α ε : Type}

/-- The part of a list in which the first item that does not pass has to be: the places from behind
the first number up to the second. The item at `last` passes, and the one at `next` is asked. -/
def bracket (test : α → Except ε Bool) (xs : List α) (last next : Nat) : Except ε (Nat × Nat) :=
  if h : next < xs.length then do
    if ← test xs[next] then bracket test xs next (2 * next + 1)
    else return (last, next)
  else .ok (last, xs.length)
termination_by xs.length - next

/-- The place in the middle from `low` up to `high`: the second one of two, but the first one in a
`mirrored` list, which is seen from its end. -/
def middle (mirrored : Bool) (low high : Nat) : Nat :=
  low + (if mirrored then high - low - 1 else high - low) / 2

theorem le_middle (mirrored : Bool) (low high : Nat) : low ≤ middle mirrored low high :=
  Nat.le_add_right ..

theorem middle_lt (mirrored : Bool) {low high : Nat} (h : low < high) :
    middle mirrored low high < high := by
  unfold middle
  split <;> omega

/-- The place of the first item that does not pass, from `low` up to `high`. -/
def halve (mirrored : Bool) (test : α → Except ε Bool) (xs : List α) (low high : Nat) :
    Except ε Nat :=
  if h : low < high ∧ high ≤ xs.length then do
    have := le_middle mirrored low high
    have := middle_lt mirrored h.1
    if ← test xs[middle mirrored low high] then
      halve mirrored test xs (middle mirrored low high + 1) high
    else halve mirrored test xs low (middle mirrored low high)
  else .ok low
termination_by high - low

/-- How many items at the front pass. -/
def countFront (mirrored : Bool) (test : α → Except ε Bool) (xs : List α) : Except ε Nat :=
  match xs with
  | [] => .ok 0
  | x :: _ => do
    if ← test x then
      let (last, stop) ← bracket test xs 0 1
      halve mirrored test xs (last + 1) stop
    else return 0

end EventLedger.Sorting
