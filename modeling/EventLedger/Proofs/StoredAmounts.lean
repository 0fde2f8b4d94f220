import EventLedger.Proofs.AccountRules
import EventLedger.Proofs.CodecRegistrations
import EventLedger.Proofs.FileRefinement

/-!
# Which amounts are stored exactly

An amount is stored as its canonical text. What is read of that text has the same text again
(`canonical_of_reread`), whatever was rounded away the first time. Nothing is rounded away exactly if
the amount is infinite or needs no more than 28 digits between the least and the greatest exponent
(`roundTrip_iff_exact`); otherwise the text is that of another number, or there is none.
-/

namespace EventLedger.Account

/-- The amount of an event of the account. -/
def Event.amount? : Event → Option Decimal
  | .deposited amount | .withdrawn amount => some amount.value
  | _ => none

/-- Two events with amounts that are different numbers. -/
def Event.AmountsDiffer (e e' : Event) : Prop :=
  ∃ d d', e.amount? = some d ∧ e'.amount? = some d' ∧ d.equals d' = .ok false

theorem ok_of_liftSignal {α : Type} {r : Except Decimal.Signal α} {x : α}
    (h : liftSignal r = .ok x) : r = .ok x := by
  cases r with
  | error signal => cases h
  | ok y => cases h; rfl

theorem liftSignal_ok_bind {α β : Type} (x : α) (f : α → Except Fault β) :
    liftSignal (.ok x) >>= f = f x := rfl

namespace Amount

/-- What is read of the canonical text of an amount, if it is an amount again. -/
def reread (movement : String) (a : Amount) : Except Fault Amount := do
  make movement (← liftSignal (Decimal.parse (← liftSignal a.value.canonical)))

/-- An amount is finite, or infinite and positive. -/
theorem finite_or_infinite (a : Amount) :
    a.value.isFinite = true ∨ a.value = .infinite false := by
  obtain ⟨d, positive⟩ := a
  cases d with
  | finite => exact .inl rfl
  | infinite negative =>
    cases negative with
    | false => exact .inr rfl
    | true => cases positive
  | nan signaling => cases signaling <;> cases positive

variable {movement : String} {a a' : Amount}

theorem reread_infinite (infinite : a.value = .infinite false) : a.reread movement = .ok a := by
  obtain ⟨d, positive⟩ := a
  cases infinite
  rfl

/-- What is read of a finite amount is the number that it is rounded to. -/
theorem rounds_of_reread (finite : a.value.isFinite = true) (h : a.reread movement = .ok a') :
    a'.value.isFinite = true ∧
      ∃ d, a.value.round = .ok d ∧ d.isFinite = true ∧ d.value = a'.value.value := by
  obtain ⟨t, text, h⟩ := exists_of_bind_ok h
  obtain ⟨d', parsed, made⟩ := exists_of_bind_ok h
  have canonical := ok_of_liftSignal text
  obtain ⟨b, read, finite', value⟩ := Decimal.parse_canonical finite canonical
  obtain rfl : b = d' := Except.ok.inj (read.symm.trans (ok_of_liftSignal parsed))
  obtain ⟨d, round, finite'', value'⟩ := round_of_canonical finite (value_pos finite).ne' canonical
  obtain rfl := value_of_make made
  exact ⟨finite', d, round, finite'', value'.trans value.symm⟩

/-- What is read of an amount has the text of the amount. -/
theorem canonical_of_reread (h : a.reread movement = .ok a') :
    a'.value.canonical = a.value.canonical := by
  rcases a.finite_or_infinite with finite | infinite
  · obtain ⟨finite', d, round, finite'', same⟩ := rounds_of_reread finite h
    have ne : d.value ≠ 0 := same ▸ (value_pos finite').ne'
    rw [Decimal.canonical_round finite round ne]
    exact Decimal.canonical_congr finite' finite'' same.symm
  · cases (reread_infinite infinite).symm.trans h
    rfl

/-- An amount that needs no rounding is read as an equal one. -/
theorem reread_of_fits (fits : a.value.isFinite = true → Decimal.Fits a.value.value)
    (movement : String) :
    ∃ a', a.reread movement = .ok a' ∧ a.value.equals a'.value = .ok true := by
  rcases a.finite_or_infinite with finite | infinite
  · obtain ⟨t, d, text, read, finite', value⟩ :=
      Decimal.parse_canonical_of_fits finite (fits finite)
    rcases make_cases movement finite' with ⟨neg, -⟩ | ⟨-, a', made, rfl⟩
    · exact absurd (value_pos finite) (not_lt.2 (value ▸ neg))
    · refine ⟨a', by rw [reread, text, liftSignal_ok_bind, read, liftSignal_ok_bind, made], ?_⟩
      rw [Decimal.equals_of_isFinite finite finite', decide_eq_true value.symm]
  · refine ⟨a, reread_infinite infinite, ?_⟩
    rw [infinite]
    rfl

/-- An amount that needs rounding is read as another number, if as any. -/
theorem differs_of_reread (finite : a.value.isFinite = true)
    (unfit : ¬ Decimal.Fits a.value.value) (h : a.reread movement = .ok a') :
    a.value.equals a'.value = .ok false := by
  obtain ⟨finite', d, round, -, same⟩ := rounds_of_reread finite h
  have rounds := Decimal.round_rounds finite
  rw [round] at rounds
  have fits := rounds.fits.2
  have ne : a.value.value ≠ a'.value.value := by
    intro eq
    rw [eq, ← same] at unfit
    exact unfit fits
  rw [Decimal.equals_of_isFinite finite finite', decide_eq_false ne]

end Amount

/-! ## Events and their stored forms -/

/-- Events with one field for an amount, as the codec stores and reads them. -/
structure IsMovement (wrap : Amount → Event) (movement : String) : Prop where
  amount (a : Amount) : (wrap a).amount? = some a.value
  equal {a a' : Amount} (same : a.value.equals a'.value = .ok true) : (wrap a).Equal (wrap a')
  stored : ∃ kind, ∀ a, codec.encode (wrap a) =
    (liftSignal a.value.canonical).map fun t => (kind, .record [("amount", .str t)])
  restored (a : Amount) : codec.roundTrip (wrap a) = wrap <$> a.reread movement

theorem encode_movement {kind : Kind} {wrap : Amount → Event} {a : Amount}
    (encodes : codec.encode (wrap a) =
      (Value.record [("amount", .decimal a.value)]).canonicalize.map fun p => (kind, p)) :
    codec.encode (wrap a) =
      (liftSignal a.value.canonical).map fun t => (kind, .record [("amount", .str t)]) := by
  rw [encodes, canonicalize_amount]
  cases a.value.canonical <;> rfl

theorem roundTrip_movement {kind : Kind} {wrap : Amount → Event} {movement : String} {a : Amount}
    (encodes : codec.encode (wrap a) =
      (liftSignal a.value.canonical).map fun t => (kind, .record [("amount", .str t)]))
    (decodes : ∀ t, codec.decode kind (.record [("amount", .str t)]) =
      liftSignal (Decimal.parse t) >>= fun d => wrap <$> Amount.make movement d) :
    codec.roundTrip (wrap a) = wrap <$> a.reread movement := by
  rw [Codec.roundTrip, encodes, Amount.reread]
  cases a.value.canonical with
  | error signal => rfl
  | ok t =>
    rw [liftSignal_ok_bind]
    exact (decodes t).trans (map_bind ..).symm

theorem isMovement_deposited : IsMovement .deposited "deposited" where
  amount _ := rfl
  equal := .deposited
  stored := ⟨Event.depositedKind, fun a => encode_movement (encode_eq (.deposited a))⟩
  restored a := roundTrip_movement (encode_movement (encode_eq (.deposited a))) decode_amount

theorem isMovement_withdrawn : IsMovement .withdrawn "withdrawn" where
  amount _ := rfl
  equal := .withdrawn
  stored := ⟨Event.withdrawnKind, fun a => encode_movement (encode_eq (.withdrawn a))⟩
  restored a := roundTrip_movement (encode_movement (encode_eq (.withdrawn a))) decode_amount

/-- An event of the account has no amount and is read as it is, or has nothing but an amount. -/
theorem Event.IsOwn.plain_or_movement {e : Event} (own : e.IsOwn) :
    (e.amount? = none ∧ e.Equal e ∧ codec.roundTrip e = .ok e) ∨
      ∃ wrap movement a, IsMovement wrap movement ∧ e = wrap a := by
  have plain : e.fields = [] → codec.roundTrip e = .ok e := by
    intro none
    rw [Codec.roundTrip, encode_eq own, none, document_empty.canonicalize]
    cases own with
    | created | closed => rfl
    | deposited | withdrawn => cases none
  cases own with
  | created => exact .inl ⟨rfl, .created, plain rfl⟩
  | closed => exact .inl ⟨rfl, .closed, plain rfl⟩
  | deposited a => exact .inr ⟨_, _, a, isMovement_deposited, rfl⟩
  | withdrawn a => exact .inr ⟨_, _, a, isMovement_withdrawn, rfl⟩

theorem Event.Equal.not_amountsDiffer {e e' : Event} (same : e.Equal e') :
    ¬ e.AmountsDiffer e' := by
  rintro ⟨d, d', amount, amount', differ⟩
  cases same with
  | created | closed => cases amount
  | deposited equal | withdrawn equal =>
    cases amount
    cases amount'
    cases equal.symm.trans differ

/-- The amount of the event, if there is a finite one, needs no rounding. -/
def Event.Exact (e : Event) : Prop :=
  ∀ d, e.amount? = some d → d.isFinite = true → Decimal.Fits d.value

/-- An event that needs no rounding is read back as an equal one. -/
theorem roundTrip_of_exact {e : Event} (own : e.IsOwn) (exact : e.Exact) :
    ∃ e', codec.roundTrip e = .ok e' ∧ e.Equal e' := by
  rcases own.plain_or_movement with ⟨-, same, restored⟩ | ⟨wrap, movement, a, moves, rfl⟩
  · exact ⟨e, restored, same⟩
  · obtain ⟨a', read, same⟩ := Amount.reread_of_fits (exact _ (moves.amount a)) movement
    refine ⟨wrap a', ?_, moves.equal same⟩
    rw [moves.restored, read]
    rfl

/-- What is read of an event that needs rounding has another amount. -/
theorem amountsDiffer_of_roundTrip {e e' : Event} (own : e.IsOwn) (inexact : ¬ e.Exact)
    (restored : codec.roundTrip e = .ok e') : e.AmountsDiffer e' := by
  simp only [Event.Exact, not_forall] at inexact
  obtain ⟨d, amount, finite, unfit⟩ := inexact
  rcases own.plain_or_movement with ⟨none, -⟩ | ⟨wrap, movement, a, moves, rfl⟩
  · cases none.symm.trans amount
  · cases (moves.amount a).symm.trans amount
    rw [moves.restored] at restored
    obtain ⟨a', read, rfl⟩ := exists_of_map_ok restored
    exact ⟨_, _, amount, moves.amount a', Amount.differs_of_reread finite unfit read⟩

/-- What is read of an event has the stored form of the event. -/
theorem encode_of_roundTrip {e e' : Event} (own : e.IsOwn) (restored : codec.roundTrip e = .ok e') :
    codec.encode e' = codec.encode e := by
  rcases own.plain_or_movement with ⟨-, -, plain⟩ | ⟨wrap, movement, a, moves, rfl⟩
  · cases plain.symm.trans restored
    rfl
  · obtain ⟨kind, stored⟩ := moves.stored
    rw [moves.restored] at restored
    obtain ⟨a', read, rfl⟩ := exists_of_map_ok restored
    rw [stored, stored, Amount.canonical_of_reread read]

/-- An amount is exact iff it is infinite, or its digits are few enough and within the exponents. -/
theorem Event.exact_iff {e : Event} {c : Nat} {q : Int} (last : c % 10 ≠ 0)
    (amount : ∀ d, e.amount? = some d → d.isFinite = true → d.value = Decimal.magnitude c q) :
    e.Exact ↔ e.amount? = none ∨ (∃ d, e.amount? = some d ∧ d.isFinite = false) ∨
      Text.digitCount c ≤ 28 ∧ -1000026 ≤ q ∧ q + Text.digitCount c - 1 ≤ 999999 := by
  have fits : Decimal.Fits (Decimal.magnitude c q) ↔
      Text.digitCount c ≤ 28 ∧ -1000026 ≤ q ∧ q + Text.digitCount c - 1 ≤ 999999 :=
    Decimal.fits_magnitude_iff last q
  rw [← fits]
  constructor
  · intro exact
    rcases h : e.amount? with _ | d
    · exact .inl rfl
    · by_cases finite : d.isFinite = true
      · exact .inr (.inr (amount d h finite ▸ exact d h finite))
      · exact .inr (.inl ⟨d, rfl, Bool.eq_false_iff.2 finite⟩)
  · rintro (none | ⟨d', infinite, unbounded⟩ | small) d given finite
    · cases none.symm.trans given
    · cases infinite.symm.trans given
      cases unbounded.symm.trans finite
    · exact amount d given finite ▸ small

/-- An event of the account is stored exactly iff it has no amount, or an infinite one, or one with at
most 28 digits, the last and the first of which are within the range of exponents. Any other event is
read with another amount, if at all. Whatever is read has the same stored form again. -/
theorem roundTrip_iff_exact {e : Event} (own : e.IsOwn) {c : Nat} {q : Int} (last : c % 10 ≠ 0)
    (amount : ∀ d, e.amount? = some d → d.isFinite = true → d.value = Decimal.magnitude c q) :
    ((∃ e', codec.roundTrip e = .ok e' ∧ e.Equal e') ↔
      e.amount? = none ∨ (∃ d, e.amount? = some d ∧ d.isFinite = false) ∨
        Text.digitCount c ≤ 28 ∧ -1000026 ≤ q ∧ q + Text.digitCount c - 1 ≤ 999999) ∧
    ((¬ ∃ e', codec.roundTrip e = .ok e' ∧ e.Equal e') →
      (∃ fault, codec.roundTrip e = .error fault) ∨
        ∃ e', codec.roundTrip e = .ok e' ∧ e.AmountsDiffer e') ∧
    ∀ name payload e', codec.encode e = .ok (name, payload) →
      codec.decode name payload = .ok e' → codec.encode e' = .ok (name, payload) := by
  have restored : (∃ e', codec.roundTrip e = .ok e' ∧ e.Equal e') ↔ e.Exact := by
    refine ⟨?_, roundTrip_of_exact own⟩
    rintro ⟨e', restored, same⟩
    by_contra inexact
    exact same.not_amountsDiffer (amountsDiffer_of_roundTrip own inexact restored)
  refine ⟨restored.trans (Event.exact_iff last amount), fun unequal => ?_,
    fun name payload e' encoded decoded => ?_⟩
  · cases result : codec.roundTrip e with
    | error fault => exact .inl ⟨fault, rfl⟩
    | ok e' => exact .inr ⟨e', rfl, amountsDiffer_of_roundTrip own (restored.not.1 unequal) result⟩
  · have again : codec.roundTrip e = .ok e' := by
      rw [Codec.roundTrip, encoded]
      exact decoded
    rw [encode_of_roundTrip own again, encoded]

/-- `roundTrip_iff_exact` for a deposit of 12.50, which is 125 tenths. -/
theorem roundTrip_iff_exact_tenths :
    let e : Event := .deposited ⟨.finite false 1250 (-2), rfl⟩
    e.IsOwn ∧ 125 % 10 ≠ 0 ∧
      (∀ d, e.amount? = some d → d.isFinite = true → d.value = Decimal.magnitude 125 (-1)) ∧
      ∃ e', codec.roundTrip e = .ok e' ∧ e.Equal e' := by
  intro e
  have own : e.IsOwn := .deposited _
  have amount : ∀ d, e.amount? = some d → d.isFinite = true →
      d.value = Decimal.magnitude 125 (-1) := by
    rintro d ⟨⟩ -
    exact Decimal.magnitude_mul_pow 125 1 (-2)
  have small : Text.digitCount 125 ≤ 28 ∧ -1000026 ≤ (-1 : Int) ∧
      (-1 : Int) + Text.digitCount 125 - 1 ≤ 999999 := by decide +kernel
  exact ⟨own, by decide, amount,
    (roundTrip_iff_exact own (by decide) amount).1.2 (.inr (.inr small))⟩

end EventLedger.Account
