/-!
# Runs

A run is a part of a list that is in order already. `nextRun` takes the run at the front of a list,
turns it round if it descends, and makes it as long as it has to be by placing the items behind it.
-/

namespace EventLedger.Sorting

variable {α ε : Type}

/-- The items in front that do not descend from `last`, and the others. -/
def ascending (less : α → α → Except ε Bool) (last : α) : List α → Except ε (List α × List α)
  | [] => .ok ([], [])
  | y :: ys => do
    if ← less y last then return ([], y :: ys)
    let (run, rest) ← ascending less y ys
    return (y :: run, rest)

/-- The items in front that descend from `last`, and the others. -/
def descending (less : α → α → Except ε Bool) (last : α) : List α → Except ε (List α × List α)
  | [] => .ok ([], [])
  | y :: ys => do
    if ← less y last then
      let (run, rest) ← descending less y ys
      return (y :: run, rest)
    return ([], y :: ys)

/-- The run at the front of a list, in order, and the items behind it. -/
def firstRun (less : α → α → Except ε Bool) : List α → Except ε (List α × List α)
  | [] => .ok ([], [])
  | [x] => .ok ([x], [])
  | x :: y :: ys => do
    if ← less y x then
      let (run, rest) ← descending less y ys
      return ((x :: y :: run).reverse, rest)
    let (run, rest) ← ascending less y ys
    return (x :: y :: run, rest)

/-- Places an item behind all items of a sorted list that it does not come before. -/
def place (less : α → α → Except ε Bool) (x : α) (ys : List α) : Except ε (List α) :=
  match _h : ys.drop (ys.length / 2) with
  | [] => .ok [x]
  | y :: right => do
    let left := ys.take (ys.length / 2)
    if ← less x y then return (← place less x left) ++ y :: right
    return left ++ y :: (← place less x right)
termination_by ys.length
decreasing_by
  all_goals
    have := congrArg List.length _h
    simp only [List.length_drop, List.length_cons] at this
    simp_wf
    omega

/-- Places the items of a list one after the other. -/
def placeAll (less : α → α → Except ε Bool) (sorted : List α) : List α → Except ε (List α)
  | [] => .ok sorted
  | x :: xs => do placeAll less (← place less x sorted) xs

/-- The run at the front of a list, with at least `size` items if there are so many, and the items
behind it. -/
def nextRun (less : α → α → Except ε Bool) (size : Nat) (xs : List α) :
    Except ε (List α × List α) := do
  let (run, rest) ← firstRun less xs
  let missing := size - run.length
  return (← placeAll less run (rest.take missing), rest.drop missing)

end EventLedger.Sorting
