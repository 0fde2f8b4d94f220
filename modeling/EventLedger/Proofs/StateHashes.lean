import EventLedger.Proofs.FileSession
import EventLedger.Proofs.StoredAmounts
import EventLedger.Proofs.TamperEvidence

/-!
# What the hash of a state tells

Two states that events with finite amounts led to are hashed as the same bytes iff they are equal
(`hashed_bytes_identify`). Equal balances have one text however they were computed. Different
balances have different texts because they need no rounding: a text stands for the rounded balance,
and so for every other number that is rounded to it.
-/

namespace EventLedger.Account

/-- A state that events of the account with finite amounts lead to. -/
def State.Reached (s : State) : Prop :=
  ∃ events : List Event,
    (∀ e ∈ events, e.IsOwn ∧ ∀ d, e.amount? = some d → d.isFinite = true) ∧
    applier.fold .empty events = .ok s

theorem Event.IsOwn.same {e : Event} (own : e.IsOwn)
    (finite : ∀ d, e.amount? = some d → d.isFinite = true) : e.Same e := by
  cases own with
  | created => exact .created
  | deposited a => exact .deposited (finite _ rfl) (finite _ rfl) rfl
  | withdrawn a => exact .withdrawn (finite _ rfl) (finite _ rfl) rfl
  | closed => exact .closed

theorem State.Reached.fits {s : State} (reached : s.Reached) : s.Fits := by
  obtain ⟨events, finite, folded⟩ := reached
  exact fits_of_fold .empty (fun e mem => (finite e mem).1.same (finite e mem).2) folded

section

variable {s t : State}

/-- The form of a state tells which state it is. -/
theorem State.Form.same {p q : Value} (left : s.Form p) (right : t.Form q) (hs : s.Fits)
    (ht : t.Fits) (eq : p = q) : s.Same t := by
  cases left with
  | empty =>
    cases right with
    | empty => exact .empty
    | _ => simp [Value.record] at eq
  | closed =>
    cases right with
    | closed => exact .closed
    | _ => simp [Value.record] at eq
  | opened text =>
    cases right with
    | opened text' =>
      obtain rfl : _ = _ := by simpa [Value.record] using eq
      cases hs with
      | opened finite fits =>
      cases ht with
      | opened finite' fits' =>
      obtain ⟨b, read, -, number⟩ := Decimal.parse_canonical finite text
      obtain ⟨b', read', -, number'⟩ := Decimal.parse_canonical finite' text'
      obtain rfl := Except.ok.inj (read.symm.trans read')
      refine .opened finite finite' ?_
      rw [← fits.rounded_eq, ← number, number', fits'.rounded_eq]
    | _ => simp [Value.record] at eq

theorem State.Same.bytes (same : s.Same t) : s.bytes = t.bytes := by
  rw [State.bytes, State.bytes, same.describe]

/-- States with finite balances can be compared. -/
theorem State.exists_equals (hs : s.Same s) (ht : t.Same t) : ∃ same, s.equals t = .ok same := by
  cases hs with
  | empty => cases ht <;> exact ⟨_, rfl⟩
  | closed => cases ht <;> exact ⟨_, rfl⟩
  | opened finite =>
    cases ht with
    | opened finite' => exact ⟨_, Decimal.equals_of_isFinite finite finite'⟩
    | _ => exact ⟨_, rfl⟩

/-- States with balances that fit have the same bytes only if they are the same. -/
theorem State.Fits.same_of_bytes (hs : s.Fits) (ht : t.Fits) (same : s.bytes = t.bytes) :
    s.Same t := by
  obtain ⟨p, cs, form, reads, bytes⟩ := hs.bytes
  obtain ⟨q, ds, form', reads', bytes'⟩ := ht.bytes
  rw [bytes, bytes'] at same
  obtain rfl := Chain.encode_inj (Except.ok.inj same)
  exact form.same form' hs ht (Except.ok.inj (reads.read_text.symm.trans reads'.read_text))

/-- The bytes that a reached state is hashed as are defined. Those of two reached states are the same
iff the states are equal. So equal states have one hash, and different ones have one only if their
bytes collide. -/
theorem hashed_bytes_identify (reached : s.Reached) (reached' : t.Reached) :
    ∃ bytes bytes' same, s.bytes = .ok bytes ∧ t.bytes = .ok bytes' ∧ s.equals t = .ok same ∧
      (bytes = bytes' ↔ same = true) ∧
      s.hash = .ok (Sha256.hexDigest bytes) ∧ t.hash = .ok (Sha256.hexDigest bytes') ∧
      (same = true → s.hash = t.hash) ∧
      (s.hash = t.hash → same = true ∨ bytes ≠ bytes' ∧ Sha256.hash bytes = Sha256.hash bytes') := by
  obtain ⟨-, cs, -, -, bytes⟩ := reached.fits.bytes
  obtain ⟨-, ds, -, -, bytes'⟩ := reached'.fits.bytes
  obtain ⟨same, compared⟩ := State.exists_equals reached.fits.same reached'.fits.same
  have hash := State.hash_of_bytes bytes
  have hash' := State.hash_of_bytes bytes'
  have identify : Text.encode cs = Text.encode ds ↔ same = true := by
    constructor
    · intro eq
      have alike := reached.fits.same_of_bytes reached'.fits (by rw [bytes, bytes', eq])
      exact Except.ok.inj (compared.symm.trans alike.equals)
    · rintro rfl
      have alike := State.same_of_equals reached.fits.same reached'.fits.same compared
      exact Except.ok.inj (bytes.symm.trans (alike.bytes.trans bytes'))
  refine ⟨_, _, same, bytes, bytes', compared, identify, hash, hash', fun equal => ?_, fun eq => ?_⟩
  · rw [hash, hash', identify.2 equal]
  · rw [← identify, or_iff_not_imp_left]
    intro ne
    rw [hash, hash'] at eq
    exact ⟨ne, Sha256.hash_eq_of_hexDigest_eq (Except.ok.inj eq)⟩

end

/-- `hashed_bytes_identify` for seventy units that were paid in with and without places behind the
point. -/
theorem hashed_bytes_identify_places :
    let s : State := .opened ⟨.finite false 7000 (-2), by decide +kernel⟩
    let t : State := .opened ⟨.finite false 70 0, by decide +kernel⟩
    s.Reached ∧ t.Reached ∧ s ≠ t ∧ s.equals t = .ok true ∧
      ∃ bytes, s.bytes = .ok bytes ∧ t.bytes = .ok bytes ∧
        s.hash = .ok (Sha256.hexDigest bytes) ∧ t.hash = .ok (Sha256.hexDigest bytes) := by
  intro s t
  have reached : ∀ {a : Amount} {b : Balance}, a.value.isFinite = true →
      Balance.zero.value.add a.value = .ok b.value → (State.opened b).Reached := by
    intro a b finite sum
    have created : applier.fold .empty [.created] = .ok (.opened .zero) := rfl
    refine ⟨[.created, .deposited a], ?_, ?_⟩
    · simp only [List.forall_mem_cons]
      exact ⟨⟨.created, nofun⟩, ⟨.deposited a, fun _ own => by cases own; exact finite⟩,
        List.forall_mem_nil _⟩
    · exact fold_deposited created sum
  have hs : s.Reached := reached (a := ⟨.finite false 7000 (-2), by decide +kernel⟩) rfl
    (by decide +kernel)
  have ht : t.Reached := reached (a := ⟨.finite false 70 0, by decide +kernel⟩) rfl
    (by decide +kernel)
  have equal : s.equals t = .ok true := by decide +kernel
  obtain ⟨bytes, bytes', same, left, right, compared, identify, hash, hash', -⟩ :=
    hashed_bytes_identify hs ht
  obtain rfl := Except.ok.inj (compared.symm.trans equal)
  obtain rfl := identify.2 rfl
  exact ⟨hs, ht, by decide, equal, bytes, left, right, hash, hash'⟩

end EventLedger.Account
