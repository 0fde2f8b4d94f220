import EventLedger.Log.Disk
import EventLedger.Proofs.FailedSubmission

/-!
# What is written on a disk

`Disk.bytesAt` are the bytes at a location; only a file has any. Making directories writes none
(`bytesAt_prepare`), and storing a log writes at its path alone (`bytesAt_store`).
-/

namespace EventLedger.Disk

/-- The bytes at a location. -/
def bytesAt (disk : Disk) (location : Location) : List UInt8 :=
  (disk.get location).bytes

theorem lookup_filter {α β : Type} [BEq α] [LawfulBEq α] {a key : α} (other : a ≠ key)
    (entries : List (α × β)) :
    (entries.filter (·.1 != key)).lookup a = entries.lookup a := by
  induction entries with
  | nil => rfl
  | cons entry entries ih =>
    obtain ⟨k, b⟩ := entry
    by_cases same : k = key
    · subst same
      have skipped : (a == k) = false := beq_false_of_ne other
      rw [List.filter_cons_of_neg (by simp), ih, List.lookup_cons, skipped]
    · rw [List.filter_cons_of_pos (by simpa using same), List.lookup_cons, List.lookup_cons, ih]

/-- Where everything begins there is a directory, and stays. -/
def IsRoot (location : Location) : Prop :=
  location = [] ∨ location = ["/"]

theorem get_of_isRoot {location : Location} (root : IsRoot location) (disk : Disk) :
    disk.get location = .directory := by
  rcases root with rfl | rfl <;> rfl

theorem get_of_not_isRoot {location : Location} (inner : ¬ IsRoot location) (disk : Disk) :
    disk.get location = (disk.nodes.lookup location).getD .missing := by
  rw [get]
  · exact fun h => inner (.inl h)
  · exact fun h => inner (.inr h)

theorem get_put_self {location : Location} (inner : ¬ IsRoot location) (disk : Disk)
    (state : FileState) : (disk.put location state).get location = state := by
  rw [get_of_not_isRoot inner, put, List.lookup_cons_self]
  rfl

theorem get_put_of_ne {location other : Location} (ne : other ≠ location) (disk : Disk)
    (state : FileState) : (disk.put location state).get other = disk.get other := by
  by_cases root : IsRoot other
  · rw [get_of_isRoot root, get_of_isRoot root]
  · rw [get_of_not_isRoot root, get_of_not_isRoot root, put, List.lookup_cons,
      beq_false_of_ne ne]
    show ((disk.nodes.filter (·.1 != location)).lookup other).getD .missing = _
    rw [lookup_filter ne]

/-- A state with the same bytes in the place of another changes no bytes. -/
theorem bytesAt_put {location : Location} {state : FileState} {disk : Disk}
    (same : state.bytes = disk.bytesAt location) (other : Location) :
    (disk.put location state).bytesAt other = disk.bytesAt other := by
  by_cases here : other = location
  · subst here
    by_cases root : IsRoot other
    · rw [bytesAt, bytesAt, get_of_isRoot root, get_of_isRoot root]
    · rw [bytesAt, get_put_self root, same]
  · rw [bytesAt, bytesAt, get_put_of_ne here]

theorem bytesAt_makeAll (disk : Disk) (locations : List Location) (location : Location) :
    (disk.makeAll locations).1.bytesAt location = disk.bytesAt location := by
  induction locations generalizing disk with
  | nil => rfl
  | cons next locations ih =>
    rw [makeAll]
    split
    · rfl
    · cases found : disk.get next with
      | file content => rfl
      | directory => exact ih disk
      | missing =>
        refine (ih _).trans (bytesAt_put ?_ location)
        rw [bytesAt, found]
        rfl

theorem bytesAt_prepare (disk : Disk) (path : String) (location : Location) :
    (disk.prepare path).1.bytesAt location = disk.bytesAt location := by
  rw [prepare]
  split
  · rfl
  · have made := disk.bytesAt_makeAll
      ((above path).takeWhile fun location => !location.any hasZero) location
    rcases result : disk.makeAll ((above path).takeWhile fun location => !location.any hasZero)
      with ⟨disk', _ | fault⟩ <;> rw [result] at made
    · simp only [result]
      exact made
    · cases fault <;> simp only [result] <;> exact made

/-- What is stored at a path stands there, unless nothing can. -/
theorem get_store {disk : Disk} {path : String} (free : disk.stateAt path ≠ .directory)
    (content : List UInt8) :
    (disk.store path (.file content)).get (locate path) = .file content := by
  by_cases root : IsRoot (locate path)
  · exact absurd (get_of_isRoot root disk) free
  · exact get_put_self root disk _

theorem get_store_of_ne (disk : Disk) {path : String} {location : Location}
    (ne : location ≠ locate path) (state : FileState) :
    (disk.store path state).get location = disk.get location := by
  cases state with
  | file content => exact get_put_of_ne ne disk _
  | missing => rfl
  | directory => rfl

/-- A log that was only opened is stored without a change of bytes. -/
theorem bytesAt_store {disk : Disk} {path : String} {state : FileState}
    (same : state.bytes = (disk.stateAt path).bytes) (location : Location) :
    (disk.store path state).bytesAt location = disk.bytesAt location := by
  cases state with
  | file content => exact bytesAt_put same location
  | missing => rfl
  | directory => rfl

end EventLedger.Disk
