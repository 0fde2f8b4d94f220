/-!
# Kinds

States, events, commands and replies are told apart by their `Kind`, a name. Handler tables are
keyed by kinds, and messages show them. A `Registry` keeps what is registered under a key; the last
registration counts.
-/

namespace EventLedger

/-- The name of a kind of state, event, command or reply. -/
abbrev Kind := String

/-- Values that have a kind. -/
class HasKind (α : Type) where
  kind : α → Kind

export HasKind (kind)

/-- What is registered under keys, the newest registration first. -/
abbrev Registry (κ α : Type) := List (κ × α)

namespace Registry

variable {κ α : Type} [BEq κ]

/-- The last registration under a key. -/
def get? (key : κ) : Registry κ α → Option α
  | [] => none
  | (k, a) :: r => if k == key then some a else get? key r

/-- Registers `a` under a key. -/
def set (key : κ) (a : α) (r : Registry κ α) : Registry κ α :=
  (key, a) :: r

@[simp] theorem get?_nil (key : κ) : get? key ([] : Registry κ α) = none := rfl

theorem get?_set (key k : κ) (a : α) (r : Registry κ α) :
    get? k (set key a r) = if key == k then some a else get? k r := rfl

variable [LawfulBEq κ]

@[simp] theorem get?_set_self (key : κ) (a : α) (r : Registry κ α) :
    get? key (set key a r) = some a := by
  simp [get?_set]

theorem get?_set_of_ne {key k : κ} (h : key ≠ k) (a : α) (r : Registry κ α) :
    get? k (set key a r) = get? k r := by
  simp [get?_set, h]

end Registry

end EventLedger
