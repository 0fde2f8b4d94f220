import Mathlib.Data.List.Perm.Basic

/-!
# Computations, and lists item by item

What a computation that succeeds has done. What stands at a place of a longer list, and the last item
of a kind. Two lists that are related item by item: what the relation says of the items on the left,
what both lists have in common, and the results of a computation for each item.
-/

namespace EventLedger

variable {α β ε : Type}

theorem exists_of_bind_ok {x : Except ε α} {f : α → Except ε β} {b : β}
    (h : x >>= f = .ok b) : ∃ a, x = .ok a ∧ f a = .ok b := by
  cases x with
  | error e => cases h
  | ok a => exact ⟨a, rfl, h⟩

theorem exists_of_map_ok {x : Except ε α} {f : α → β} {b : β}
    (h : x.map f = .ok b) : ∃ a, x = .ok a ∧ b = f a := by
  cases x with
  | error e => cases h
  | ok a => cases h; exact ⟨a, rfl, rfl⟩

/-- A computation that does not fail has a result. -/
theorem exists_ok {x : Except ε α} (h : ∀ e, x ≠ .error e) : ∃ a, x = .ok a := by
  cases x with
  | error e => exact absurd rfl (h e)
  | ok a => exact ⟨a, rfl⟩

/-- A list with one more item behind it has at each place what it had, or that item. -/
theorem of_getElem?_concat {xs : List α} {x y : α} {i : Nat} (found : (xs ++ [x])[i]? = some y) :
    xs[i]? = some y ∨ xs[i]? = none ∧ y = x := by
  rcases Nat.lt_or_ge i xs.length with old | new
  · rw [List.getElem?_append_left old] at found
    exact .inl found
  · rw [List.getElem?_append_right new] at found
    exact .inr ⟨List.getElem?_eq_none_iff.2 new, List.mem_singleton.1 (List.mem_of_getElem? found)⟩

/-- With one more item behind a list, its value is the last one if it has a value. -/
theorem getLast?_filterMap_concat (f : α → Option β) (xs : List α) (x : α) :
    ((xs ++ [x]).filterMap f).getLast? = (f x).or (xs.filterMap f).getLast? := by
  rw [List.filterMap_append, List.getLast?_append]
  cases value : f x with
  | none => rw [List.filterMap_cons_none value]; rfl
  | some y => rw [List.filterMap_cons_some value]; rfl

/-- A list with an item of a kind is cut at the last one. -/
theorem exists_cut_last {p : α → Prop} {xs : List α} (h : ∃ x ∈ xs, p x) :
    ∃ front x rest, xs = front ++ x :: rest ∧ p x ∧ ∀ y ∈ rest, ¬ p y := by
  induction xs with
  | nil => obtain ⟨x, mem, -⟩ := h; cases mem
  | cons x xs ih =>
    by_cases more : ∃ y ∈ xs, p y
    · obtain ⟨front, y, rest, rfl, holds, others⟩ := ih more
      exact ⟨x :: front, y, rest, rfl, holds, others⟩
    · obtain ⟨y, mem, holds⟩ := h
      rcases List.mem_cons.1 mem with rfl | mem
      · exact ⟨[], y, xs, rfl, holds, fun z mem hz => more ⟨z, mem, hz⟩⟩
      · exact absurd ⟨y, mem, holds⟩ more

/-- What related items have in common is the same for both lists. -/
theorem map_eq_of_forall₂ {γ : Type} {r : α → β → Prop} {f : α → γ} {g : β → γ} {xs : List α}
    {ys : List β} (h : List.Forall₂ r xs ys) (common : ∀ x y, r x y → f x = g y) :
    xs.map f = ys.map g := by
  induction h with
  | nil => rfl
  | cons first _ ih => rw [List.map_cons, List.map_cons, common _ _ first, ih]

/-- What follows for one item of each pair holds for all on the left. -/
theorem forall_mem_of_forall₂ {p : α → Prop} {r : α → β → Prop} {xs : List α} {ys : List β}
    (h : List.Forall₂ r xs ys) (implies : ∀ x y, r x y → p x) : ∀ x ∈ xs, p x :=
  ((List.forall₂_and_left ..).1 (h.imp fun x y related => ⟨implies x y related, related⟩)).1

/-- What mapped items become in another order is what the items become in some order. -/
theorem exists_map_of_perm {f : α → β} {xs : List α} {ys : List β} (same : ys.Perm (xs.map f)) :
    ∃ xs' : List α, xs'.Perm xs ∧ ys = xs'.map f := by
  obtain ⟨xs', mapped, perm⟩ := (congrFun₂ (List.eq_map_comp_perm f) ys xs).mpr same
  exact ⟨xs', perm, mapped⟩

/-- Every item on the left is related to one on the right. -/
theorem exists_of_forall₂ {r : α → β → Prop} {xs : List α} {ys : List β}
    (h : List.Forall₂ r xs ys) : ∀ x ∈ xs, ∃ y ∈ ys, r x y := by
  induction h with
  | nil => nofun
  | cons first _ ih =>
    refine List.forall_mem_cons.2 ⟨⟨_, List.mem_cons_self, first⟩, fun x mem => ?_⟩
    obtain ⟨y, mem, related⟩ := ih x mem
    exact ⟨y, List.mem_cons_of_mem _ mem, related⟩

/-- What stands at a place on the left is related to what stands there on the right. -/
theorem getElem?_of_forall₂ {r : α → β → Prop} {xs : List α} {ys : List β}
    (h : List.Forall₂ r xs ys) {i : Nat} {x : α} (found : xs[i]? = some x) :
    ∃ y, ys[i]? = some y ∧ r x y := by
  induction h generalizing i with
  | nil => cases found
  | cons first _ ih =>
    cases i with
    | zero => cases found; exact ⟨_, rfl, first⟩
    | succ i => exact ih found

/-- What is related to a list in two parts is in two parts. -/
theorem exists_append_of_forall₂ {r : α → β → Prop} {xs xs' : List α} {ys : List β}
    (h : List.Forall₂ r (xs ++ xs') ys) :
    ∃ zs zs', ys = zs ++ zs' ∧ List.Forall₂ r xs zs ∧ List.Forall₂ r xs' zs' :=
  ⟨_, _, (List.take_append_drop xs.length ys).symm, (List.forall₂_take_append _ _ _ h.flip).flip,
    (List.forall₂_drop_append _ _ _ h.flip).flip⟩

theorem exists_forall₂ {r : α → β → Prop} {xs : List α} (h : ∀ x ∈ xs, ∃ y, r x y) :
    ∃ ys, List.Forall₂ r xs ys := by
  induction xs with
  | nil => exact ⟨[], .nil⟩
  | cons x xs ih =>
    rw [List.forall_mem_cons] at h
    obtain ⟨y, first⟩ := h.1
    obtain ⟨ys, others⟩ := ih h.2
    exact ⟨y :: ys, .cons first others⟩

/-- The results of a computation that succeeds for every item. -/
theorem forall₂_of_mapM {f : α → Except ε β} {xs : List α} {ys : List β}
    (h : xs.mapM f = .ok ys) : List.Forall₂ (fun x y => f x = .ok y) xs ys := by
  induction xs generalizing ys with
  | nil => cases h; exact .nil
  | cons x xs ih =>
    rw [List.mapM_cons] at h
    cases first : f x with
    | error e => rw [first] at h; cases h
    | ok y =>
      cases others : xs.mapM f with
      | error e => rw [first, others] at h; cases h
      | ok ys' => rw [first, others] at h; cases h; exact .cons first (ih others)

theorem mapM_of_forall₂ {f : α → Except ε β} {xs : List α} {ys : List β}
    (h : List.Forall₂ (fun x y => f x = .ok y) xs ys) : xs.mapM f = .ok ys := by
  induction h with
  | nil => rfl
  | cons first _ ih => rw [List.mapM_cons, first, ih]; rfl

/-- Items for which the computations are the same. -/
theorem mapM_congr_of_forall₂ {γ : Type} {f : α → Except ε γ} {g : β → Except ε γ} {xs : List α}
    {ys : List β} (h : List.Forall₂ (fun x y => f x = g y) xs ys) : xs.mapM f = ys.mapM g := by
  induction h with
  | nil => rfl
  | cons first _ ih => rw [List.mapM_cons, List.mapM_cons, first, ih]

/-- If items fail with one error only, so does the list, unless no item fails. -/
theorem mapM_error_or {f : α → Except ε β} {e : ε} {p : α → Prop}
    (succeeds : ∀ x, p x → ∃ y, f x = .ok y) {xs : List α}
    (h : ∀ x ∈ xs, f x = .error e ∨ p x) : xs.mapM f = .error e ∨ ∀ x ∈ xs, p x := by
  induction xs with
  | nil => exact .inr nofun
  | cons x xs ih =>
    rw [List.forall_mem_cons] at h
    rcases h.1 with fails | first
    · exact .inl (by rw [List.mapM_cons, fails]; rfl)
    · obtain ⟨y, value⟩ := succeeds x first
      rcases ih h.2 with fails | others
      · exact .inl (by rw [List.mapM_cons, value, fails]; rfl)
      · exact .inr (List.forall_mem_cons.2 ⟨first, others⟩)

end EventLedger
