import Mathlib.Data.List.Chain
import Mathlib.Data.List.Perm.Basic
import EventLedger.Proofs.Lists
import EventLedger.Value.Key

/-!
# Sorting loses nothing

Whatever the comparison says, and even if it contradicts itself: a list that could be sorted is a
permutation of the items that it was made of (`sortWith_perm`). So the entries of a map that is
written are those of the map (`Value.sortByKey_perm`). A list in which no item comes before the one in
front of it stays as it is (`sortWith_of_chain`).
-/

namespace EventLedger

namespace Sorting

variable {α ε : Type} {less : α → α → Except ε Bool}

theorem ascending_append {last : α} {ys run rest : List α}
    (h : ascending less last ys = .ok (run, rest)) : run ++ rest = ys := by
  induction ys generalizing last run rest with
  | nil => cases h; rfl
  | cons y ys ih =>
    rw [ascending] at h
    obtain ⟨_ | _, -, h⟩ := exists_of_bind_ok h
    · obtain ⟨⟨run', rest'⟩, others, h⟩ := exists_of_bind_ok h
      cases h
      exact congrArg (y :: ·) (ih others)
    · cases h; rfl

theorem descending_append {last : α} {ys run rest : List α}
    (h : descending less last ys = .ok (run, rest)) : run ++ rest = ys := by
  induction ys generalizing last run rest with
  | nil => cases h; rfl
  | cons y ys ih =>
    rw [descending] at h
    obtain ⟨_ | _, -, h⟩ := exists_of_bind_ok h
    · cases h; rfl
    · obtain ⟨⟨run', rest'⟩, others, h⟩ := exists_of_bind_ok h
      cases h
      exact congrArg (y :: ·) (ih others)

/-- The run at the front of a list, which is not empty unless the list is. -/
theorem firstRun_perm {xs run rest : List α} (h : firstRun less xs = .ok (run, rest)) :
    (run ++ rest).Perm xs ∧ (xs ≠ [] → run ≠ []) := by
  match xs with
  | [] => cases h; exact ⟨.nil, fun ne => absurd rfl ne⟩
  | [x] => cases h; exact ⟨.refl _, fun _ => List.cons_ne_nil _ _⟩
  | x :: y :: ys =>
    rw [firstRun] at h
    obtain ⟨_ | _, -, h⟩ := exists_of_bind_ok h
    · obtain ⟨⟨run', rest'⟩, others, h⟩ := exists_of_bind_ok h
      cases h
      rw [← ascending_append others]
      exact ⟨.refl _, fun _ => List.cons_ne_nil _ _⟩
    · obtain ⟨⟨run', rest'⟩, others, h⟩ := exists_of_bind_ok h
      cases h
      rw [← descending_append others]
      exact ⟨(List.reverse_perm _).append_right _, fun _ => by simp⟩

theorem place_perm {x : α} {ys zs : List α} (h : place less x ys = .ok zs) :
    zs.Perm (x :: ys) := by
  fun_induction place less x ys generalizing zs with
  | case1 ys none =>
    have length := congrArg List.length none
    rw [List.length_drop, List.length_nil] at length
    rw [List.length_eq_zero_iff.1 (show ys.length = 0 by omega)]
    cases h
    exact .refl _
  | case2 ys y right cut left ihLeft =>
    rename_i ihRight
    have parts : left ++ y :: right = ys := by
      rw [← cut]
      exact List.take_append_drop ..
    obtain ⟨_ | _, -, h⟩ := exists_of_bind_ok h
    · obtain ⟨placed, step, h⟩ := exists_of_bind_ok h
      cases h
      rw [← parts]
      exact ((((ihRight step).cons y).trans (.swap x y right)).append_left _).trans
        List.perm_middle
    · obtain ⟨placed, step, h⟩ := exists_of_bind_ok h
      cases h
      rw [← parts]
      exact (ihLeft step).append_right (y :: right)

theorem placeAll_perm {sorted xs zs : List α} (h : placeAll less sorted xs = .ok zs) :
    zs.Perm (sorted ++ xs) := by
  induction xs generalizing sorted with
  | nil => cases h; rw [List.append_nil]
  | cons x xs ih =>
    rw [placeAll] at h
    obtain ⟨placed, step, h⟩ := exists_of_bind_ok h
    exact (ih h).trans (((place_perm step).append_right xs).trans List.perm_middle.symm)

theorem nextRun_perm {size : Nat} {xs run rest : List α}
    (h : nextRun less size xs = .ok (run, rest)) :
    (run ++ rest).Perm xs ∧ (xs ≠ [] → rest.length < xs.length) := by
  rw [nextRun] at h
  obtain ⟨⟨first, others⟩, begun, h⟩ := exists_of_bind_ok h
  obtain ⟨placed, filled, h⟩ := exists_of_bind_ok h
  cases h
  obtain ⟨perm, ne⟩ := firstRun_perm begun
  have filled' := placeAll_perm filled
  have all : (run ++ others.drop (size - first.length)).Perm xs := by
    refine ((filled'.append_right _).trans ?_).trans perm
    rw [List.append_assoc, List.take_append_drop]
  refine ⟨all, fun some => ?_⟩
  have length := perm.length_eq
  have pos := List.length_pos_of_ne_nil (ne some)
  rw [List.length_append] at length
  rw [List.length_drop]
  omega

namespace Merging

variable (m : Merging α) (n : Nat)

theorem all_takeShort : (m.takeShort n).all.Perm m.all := by
  have moved : (m.short.take n ++ (m.other ++ m.short.drop n)).Perm (m.other ++ m.short) := by
    refine List.perm_append_comm_assoc .. |>.trans ?_
    rw [List.take_append_drop]
  simpa only [all, takeShort, List.append_assoc] using moved.append_left m.taken

theorem all_takeOther : (m.takeOther n).all = m.all := by
  simp only [all, takeOther, List.append_assoc]
  rw [← List.append_assoc (m.other.take n), List.take_append_drop]

end Merging

variable {contest : Contest α ε}

theorem leapShort_perm {m m' : Merging α} {n : Nat} (h : contest.leapShort m = .ok (m', n)) :
    m'.all.Perm m.all := by
  rw [Contest.leapShort] at h
  split at h
  · cases h; exact .refl _
  · split at h
    · cases h; exact .refl _
    · obtain ⟨count, -, h⟩ := exists_of_bind_ok h
      cases h
      split
      · exact m.all_takeShort _
      · rw [Merging.all_takeOther]; exact m.all_takeShort _

theorem leapOther_perm {m m' : Merging α} {n : Nat} (h : contest.leapOther m = .ok (m', n)) :
    m'.all.Perm m.all := by
  rw [Contest.leapOther] at h
  split at h
  · cases h; exact .refl _
  · split at h
    · cases h; exact .refl _
    · obtain ⟨count, -, h⟩ := exists_of_bind_ok h
      cases h
      split
      · rw [Merging.all_takeOther]
      · exact (Merging.all_takeShort ..).trans (by rw [Merging.all_takeOther])

theorem leap_perm {m m' : Merging α} {n : Nat} (h : contest.leap m = .ok (m', n)) :
    m'.all.Perm m.all := by
  rw [Contest.leap] at h
  split at h
  · obtain ⟨⟨middle, a⟩, first, h⟩ := exists_of_bind_ok h
    obtain ⟨⟨last, b⟩, second, h⟩ := exists_of_bind_ok h
    cases h
    exact (leapShort_perm second).trans (leapOther_perm first)
  · obtain ⟨⟨middle, a⟩, first, h⟩ := exists_of_bind_ok h
    obtain ⟨⟨last, b⟩, second, h⟩ := exists_of_bind_ok h
    cases h
    exact (leapOther_perm second).trans (leapShort_perm first)

theorem race_perm {fuel eagerness eagerness' : Nat} {pace : Pace} {m : Merging α} {zs : List α}
    (h : race contest fuel eagerness pace m = .ok (zs, eagerness')) : zs.Perm m.all := by
  induction fuel generalizing eagerness pace m with
  | zero => cases h; exact .refl _
  | succ fuel ih =>
    unfold race at h
    split at h
    · obtain ⟨_ | _, -, h⟩ := exists_of_bind_ok h
      · exact (ih h).trans (m.all_takeShort 1)
      · exact (ih h).trans (by rw [Merging.all_takeOther])
    · obtain ⟨⟨leapt, size⟩, step, h⟩ := exists_of_bind_ok h
      refine List.Perm.trans ?_ (leap_perm step)
      dsimp only at h
      split at h
      · cases h; exact .refl _
      · split at h <;> exact ih h
    · cases h; exact .refl _

theorem mergeFrom_perm {eagerness eagerness' : Nat} {short other zs : List α}
    (h : mergeFrom contest eagerness short other = .ok (zs, eagerness')) :
    zs.Perm (other ++ short) := by
  refine (race_perm h).trans ?_
  rw [Merging.all_takeOther]
  exact .refl _

theorem mergeRuns_perm {eagerness eagerness' : Nat} {xs ys zs : List α}
    (h : mergeRuns less eagerness xs ys = .ok (zs, eagerness')) : zs.Perm (xs ++ ys) := by
  unfold mergeRuns at h
  split at h
  next =>
    cases h
    rw [List.append_nil]
  next y others =>
    generalize y :: others = ys at h ⊢
    obtain ⟨before, -, merges⟩ := exists_of_bind_ok h
    clear h
    -- The front of the first run stays, and so does the back of the second one.
    have first := List.take_append_drop before xs
    generalize xs.take before = front, xs.drop before = late at merges first
    subst first
    dsimp only at merges
    split at merges
    next none =>
      cases merges
      rw [List.getLast?_eq_none_iff.1 none, List.append_nil]
    next x some =>
      obtain ⟨behind, -, rest⟩ := exists_of_bind_ok merges
      clear merges
      have second := List.take_append_drop (ys.length - behind) ys
      generalize ys.take _ = early, ys.drop _ = back at rest second
      subst second
      have kept {merged : List α} (moved : merged.Perm (late ++ early)) :
          (front ++ merged ++ back).Perm (front ++ late ++ (early ++ back)) := by
        simpa only [List.append_assoc] using (moved.append_right back).append_left front
      split at rest
      next empty =>
        cases rest
        rw [List.isEmpty_iff.1 empty, List.nil_append]
      next =>
        split at rest
        · obtain ⟨⟨merged, e⟩, step, h⟩ := exists_of_bind_ok rest
          cases h
          exact kept ((mergeFrom_perm step).trans List.perm_append_comm)
        · obtain ⟨⟨merged, e⟩, step, h⟩ := exists_of_bind_ok rest
          cases h
          refine kept ((List.reverse_perm _).trans ((mergeFrom_perm step).trans ?_))
          exact (List.reverse_perm _).append (List.reverse_perm _)

/-! ## All runs -/

/-- The items of the runs that wait, the last run first. -/
def waiting (pending : List (Pending α)) : List α :=
  pending.flatMap Pending.items

/-- Merging the last two runs moves items among the runs that wait. -/
theorem waiting_merged {items : List α} {last previous : Pending α}
    (merged : items.Perm (previous.items ++ last.items)) (pending : List (Pending α)) :
    (waiting ({ previous with items } :: pending)).Perm (waiting (last :: previous :: pending)) := by
  simpa only [waiting, List.flatMap_cons, List.append_assoc] using
    (merged.trans List.perm_append_comm).append_right _

theorem mergeAbove_perm {bound eagerness eagerness' : Nat} {pending pending' : List (Pending α)}
    (h : mergeAbove less bound eagerness pending = .ok (pending', eagerness')) :
    (waiting pending').Perm (waiting pending) := by
  induction eagerness, pending using mergeAbove.induct bound with
  | case1 => rw [mergeAbove] at h; cases h; exact .refl _
  | case2 => rw [mergeAbove] at h; cases h; exact .refl _
  | case3 eagerness last previous pending above ih =>
    rw [mergeAbove, if_pos above] at h
    obtain ⟨⟨items, eagerness⟩, step, h⟩ := exists_of_bind_ok h
    exact (ih items eagerness h).trans (waiting_merged (mergeRuns_perm step) pending)
  | case4 eagerness last previous pending above =>
    rw [mergeAbove, if_neg above] at h
    cases h
    exact .refl _

theorem mergeAll_perm {eagerness : Nat} {pending : List (Pending α)} {zs : List α}
    (h : mergeAll less eagerness pending = .ok zs) : zs.Perm (waiting pending) := by
  induction eagerness, pending using mergeAll.induct with
  | case1 => rw [mergeAll] at h; cases h; exact .refl _
  | case2 eagerness last =>
    rw [mergeAll] at h
    cases h
    simp [waiting]
  | case3 eagerness last previous =>
    rw [mergeAll] at h
    obtain ⟨⟨items, eagerness⟩, step, h⟩ := exists_of_bind_ok h
    cases h
    simpa [waiting] using waiting_merged (mergeRuns_perm step) []
  | case4 eagerness last previous first pending shorter ih =>
    rw [mergeAll, if_pos shorter] at h
    obtain ⟨⟨items, eagerness⟩, step, h⟩ := exists_of_bind_ok h
    exact (ih items eagerness h).trans
      ((waiting_merged (mergeRuns_perm step) pending).append_left last.items)
  | case5 eagerness last previous first pending shorter ih =>
    rw [mergeAll, if_neg shorter] at h
    obtain ⟨⟨items, eagerness⟩, step, h⟩ := exists_of_bind_ok h
    exact (ih items eagerness h).trans (waiting_merged (mergeRuns_perm step) (first :: pending))

theorem sortRuns_perm {size fuel eagerness : Nat} {pending : List (Pending α)} {rest zs : List α}
    (enough : rest.length ≤ fuel)
    (h : sortRuns less size fuel eagerness pending rest = .ok zs) :
    zs.Perm (waiting pending ++ rest) := by
  -- A run takes an item at least, so that the fuel lasts for the rest.
  induction fuel generalizing eagerness pending rest with
  | zero =>
    rw [List.length_eq_zero_iff.1 (Nat.le_zero.1 enough), List.append_nil]
    exact mergeAll_perm h
  | succ fuel ih =>
    unfold sortRuns at h
    split at h
    next empty =>
      rw [List.isEmpty_iff.1 empty, List.append_nil]
      exact mergeAll_perm h
    next some =>
      obtain ⟨⟨items, others⟩, step, h⟩ := exists_of_bind_ok h
      obtain ⟨perm, shorter⟩ := nextRun_perm step
      have fewer := shorter fun empty => some (List.isEmpty_iff.2 empty)
      dsimp only at h
      split at h
      · refine (ih (by omega) h).trans ?_
        simpa [waiting] using perm
      next last pending =>
        obtain ⟨⟨pending', eagerness⟩, merges, h⟩ := exists_of_bind_ok h
        refine (ih (by omega) h).trans ?_
        have moved := (perm.append_right _).trans ((mergeAbove_perm merges).append_left rest)
        refine List.Perm.trans ?_ (moved.trans List.perm_append_comm)
        have swapped : (waiting pending' ++ others).Perm (others ++ waiting pending') :=
          List.perm_append_comm
        simpa only [waiting, List.flatMap_cons, List.append_assoc] using swapped.append_left items

/-- A list that is sorted is a permutation of its items. -/
theorem sortWith_perm {xs zs : List α} (h : sortWith less xs = .ok zs) : zs.Perm xs :=
  sortRuns_perm (Nat.le_refl _) h

/-! ## Lists that are in order -/

theorem ascending_of_chain {last : α} {ys : List α}
    (h : (last :: ys).IsChain fun x y => less y x = .ok false) :
    ascending less last ys = .ok (ys, []) := by
  induction ys generalizing last with
  | nil => rfl
  | cons y ys ih =>
    obtain ⟨first, others⟩ := List.isChain_cons_cons.1 h
    rw [ascending, first, ih others]
    rfl

/-- A list in order is one run. -/
theorem nextRun_of_chain {xs : List α} (h : xs.IsChain fun x y => less y x = .ok false)
    (size : Nat) : nextRun less size xs = .ok (xs, []) := by
  have run : firstRun less xs = .ok (xs, []) := by
    match xs with
    | [] => rfl
    | [x] => rfl
    | x :: y :: ys =>
      obtain ⟨first, others⟩ := List.isChain_cons_cons.1 h
      rw [firstRun, first, ascending_of_chain others]
      rfl
  rw [nextRun, run]
  simp only [bind, Except.bind, List.take_nil, List.drop_nil, placeAll]
  rfl

theorem sortRuns_last (size fuel eagerness : Nat) (last : Pending α) :
    sortRuns less size fuel eagerness [last] [] = .ok last.items := by
  cases fuel with
  | zero => rw [sortRuns, mergeAll]
  | succ fuel => rw [sortRuns, if_pos List.isEmpty_nil, mergeAll]

/-- A list in order stays as it is. -/
theorem sortWith_of_chain {xs : List α} (h : xs.IsChain fun x y => less y x = .ok false) :
    sortWith less xs = .ok xs := by
  cases xs with
  | nil => rw [sortWith, List.length_nil, sortRuns, mergeAll]
  | cons x xs =>
    rw [sortWith, List.length_cons, sortRuns, if_neg (by simp), nextRun_of_chain h]
    exact sortRuns_last ..

end Sorting

/-- Entries in the order of their keys are the same entries. -/
theorem Value.sortByKey_perm {α : Type} {entries sorted : List (Value × α)}
    (h : sortByKey entries = .ok sorted) : sorted.Perm entries := by
  rw [sortByKey] at h
  split at h
  · cases h; exact List.mergeSort_perm ..
  · exact Sorting.sortWith_perm h

/-- Entries with keys in order, not all of them texts, stay as they are. -/
theorem Value.sortByKey_of_chain {α : Type} {keys : List Value}
    (order : keys.IsChain fun k l => before l k = .ok false) (others : keys.all isText = false)
    {entries : List (Value × α)} (own : entries.map Prod.fst = keys) :
    sortByKey entries = .ok entries := by
  have notTexts : entries.all (·.1.isText) = false := by
    rw [← own, List.all_map] at others
    exact others
  rw [← own, List.isChain_map] at order
  rw [sortByKey, notTexts, if_neg Bool.false_ne_true]
  exact Sorting.sortWith_of_chain order

end EventLedger
