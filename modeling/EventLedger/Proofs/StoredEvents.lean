import EventLedger.Account.Codec
import EventLedger.Proofs.AccountNumbers

/-!
# Account events as they are stored

An amount is stored as its canonical text, so it is read back as the number rounded to 28 digits: an
event that was stored is decoded as one with the same number as the rounded event
(`decode_encode`). An amount that is rounded to zero is stored as well, but cannot be decoded.
-/

namespace EventLedger.Account

/-- The event with its amount rounded to 28 digits, unless that leaves nothing. -/
def Event.rounded : Event → Except Fault Event
  | .deposited amount => do deposit (← liftSignal amount.value.round)
  | .withdrawn amount => do withdraw (← liftSignal amount.value.round)
  | event => .ok event

/-- The events of the account itself, not of an application. -/
inductive Event.IsOwn : Event → Prop
  | created : IsOwn .created
  | deposited (amount : Amount) : IsOwn (.deposited amount)
  | withdrawn (amount : Amount) : IsOwn (.withdrawn amount)
  | closed : IsOwn .closed

theorem Event.Same.isOwn {e e' : Event} (h : e.Same e') : e.IsOwn := by
  cases h <;> constructor

/-- Two events with the same numbers, or no event either time. -/
inductive Event.Alike : Except Fault Event → Except Fault Event → Prop
  | event {e e' : Event} (same : e.Same e') : Alike (.ok e) (.ok e')
  | fault (fault fault' : Fault) : Alike (.error fault) (.error fault')

theorem Amount.make_cases (movement : String) {d : Decimal} (finite : d.isFinite = true) :
    (d.value ≤ 0 ∧ ∃ fault, make movement d = .error fault) ∨
      0 < d.value ∧ ∃ a : Amount, make movement d = .ok a ∧ a.value = d := by
  have sign := Decimal.atMost_of_isFinite finite (rfl : Decimal.zero.isFinite = true)
  rw [Decimal.value_zero] at sign
  unfold make
  split
  next h =>
    rw [sign] at h
    exact .inr ⟨not_le.1 (of_decide_eq_false (Except.ok.inj h)), _, rfl, rfl⟩
  next h =>
    rw [sign] at h
    exact .inl ⟨of_decide_eq_true (Except.ok.inj h), _, rfl⟩
  next h => rw [sign] at h; cases h

theorem Amount.value_pos {a : Amount} (finite : a.value.isFinite = true) : 0 < a.value.value := by
  have positive := a.positive
  rw [Decimal.atMost_of_isFinite finite rfl, Decimal.value_zero] at positive
  exact not_le.1 (of_decide_eq_false (Except.ok.inj positive))

/-- Amounts with the same number make the same events. -/
theorem movement_alike (movement : String) {wrap : Amount → Event}
    (wraps : ∀ {a a' : Amount}, a.value.isFinite = true → a'.value.isFinite = true →
      a.value.value = a'.value.value → (wrap a).Same (wrap a'))
    {d d' : Decimal} (left : d.isFinite = true) (right : d'.isFinite = true)
    (same : d.value = d'.value) :
    Event.Alike (wrap <$> Amount.make movement d) (wrap <$> Amount.make movement d') := by
  rcases Amount.make_cases movement left with ⟨neg, fault, made⟩ | ⟨pos, a, made, rfl⟩
  · rcases Amount.make_cases movement right with ⟨-, fault', made'⟩ | ⟨pos', -⟩
    · rw [made, made']; exact .fault _ _
    · exact absurd (same ▸ pos') (not_lt.2 neg)
  · rcases Amount.make_cases movement right with ⟨neg', -⟩ | ⟨-, a', made', rfl⟩
    · exact absurd (same ▸ pos) (not_lt.2 neg')
    · rw [made, made']; exact .event (wraps left right same)

/-- A number other than zero that has a canonical text can be rounded. -/
theorem round_of_canonical {d : Decimal} (finite : d.isFinite = true) (ne : d.value ≠ 0)
    {t : String} (text : d.canonical = .ok t) :
    ∃ d', d.round = .ok d' ∧ d'.isFinite = true ∧ d'.value = Decimal.rounded d.value := by
  have rounds := Decimal.round_rounds finite
  rw [Decimal.canonical, Decimal.equals_of_isFinite finite rfl, Decimal.value_zero,
    decide_eq_false ne, Decimal.normalize_eq] at text
  generalize d.round = r at rounds text
  cases rounds with
  | number value => exact ⟨_, rfl, rfl, value⟩
  | overflow => cases text

theorem canonicalize_amount (d : Decimal) :
    (Value.record [("amount", .decimal d)]).canonicalize =
      (liftSignal d.canonical).map fun t => .record [("amount", .str t)] := by
  cases text : d.canonical with
  | error signal =>
    have field : (Value.decimal d).canonicalize = .error (.arithmetic signal) := by
      rw [Value.canonicalize, text]
      rfl
    have sorts := Value.sortByKey_named (.refl [("amount", (Value.decimal d).canonicalize)])
      (List.pairwise_singleton ..)
    rw [Value.record_eq, Value.canonicalize, Value.canonicalEntries_named]
    show Value.sortByKey ([("amount", (Value.decimal d).canonicalize)].map Value.named) >>= _ = _
    rw [sorts, field]
    rfl
  | ok t =>
    have field : Value.CanonicalField ("amount", .decimal d) ("amount", .str t) :=
      ⟨rfl, by rw [Value.canonicalize, text]; rfl, .str t⟩
    exact Value.canonicalize_record (.cons field .nil) (.refl _) (List.pairwise_singleton ..)

theorem readFields_amount (t : String) :
    readFields (.record [("amount", .str t)]) [⟨"amount", true⟩] =
      (liftSignal (Decimal.parse t)).map fun d => [("amount", .decimal d)] := by
  have entry : payloadEntry? "amount" (.record [("amount", .str t)]) = .ok (some (.str t)) := rfl
  have value : Decimal.ofValue (.str t) = liftSignal (Decimal.parse t) := rfl
  simp only [readFields, entry, value, bind, Except.bind]
  cases Decimal.parse t <;> rfl

/-- The stored form of an amount is decoded as the rounded number. -/
theorem decode_amount {kind : Kind} {make : Decimal → Except Fault Event} (t : String) :
    (amountClass kind make).decoder (.record [("amount", .str t)]) =
      liftSignal (Decimal.parse t) >>= make := by
  show readFields (.record [("amount", .str t)]) [⟨"amount", true⟩] >>= _ = _
  rw [readFields_amount]
  cases Decimal.parse t <;> rfl

theorem movement_decodes {a : Amount} (finite : a.value.isFinite = true) (movement : String)
    {wrap : Amount → Event}
    (wraps : ∀ {a a' : Amount}, a.value.isFinite = true → a'.value.isFinite = true →
      a.value.value = a'.value.value → (wrap a).Same (wrap a'))
    {payload : Value}
    (h : (Value.record [("amount", .decimal a.value)]).canonicalize = .ok payload) :
    ∃ t, payload = .record [("amount", .str t)] ∧
      Event.Alike (liftSignal (Decimal.parse t) >>= fun d => wrap <$> Amount.make movement d)
        (liftSignal a.value.round >>= fun d => wrap <$> Amount.make movement d) := by
  rw [canonicalize_amount] at h
  cases text : a.value.canonical with
  | error signal => rw [text] at h; cases h
  | ok t =>
    rw [text] at h
    cases h
    obtain ⟨d, read, left, value⟩ := Decimal.parse_canonical finite text
    obtain ⟨d', round, right, value'⟩ :=
      round_of_canonical finite (Amount.value_pos finite).ne' text
    refine ⟨t, rfl, ?_⟩
    rw [read, round]
    exact movement_alike movement wraps left right (value.trans value'.symm)

theorem document_amount (t : String) : (Value.record [("amount", .str t)]).Document :=
  .record (List.pairwise_singleton ..) (by simp [Value.Document.str])

theorem document_empty : (Value.record []).Document :=
  .record .nil (by simp)

theorem encode_eq {e : Event} (own : e.IsOwn) :
    codec.encode e = (Value.record e.fields).canonicalize.map fun payload => (kind e, payload) := by
  cases own <;> rfl

theorem encode_created : codec.encode .created = .ok (Event.createdKind, .record []) := by
  rw [encode_eq .created, Event.fields, document_empty.canonicalize]
  rfl

/-- A deposit that can be rounded has a stored form. -/
theorem encode_deposited {a : Amount} (finite : a.value.isFinite = true) {d : Decimal}
    (rounds : a.value.round = .ok d) : ∃ p, codec.encode (.deposited a) = .ok p := by
  obtain ⟨t, text⟩ := Decimal.canonical_of_round finite rounds
  rw [encode_eq (.deposited a), Event.fields, canonicalize_amount, text]
  exact ⟨_, rfl⟩

/-- A stored event is a document, and is decoded as the rounded event, if there is one. -/
theorem decode_encode {e : Event} (finite : e.Same e) {name : String} {payload : Value}
    (h : codec.encode e = .ok (name, payload)) :
    payload.Document ∧ Event.Alike (codec.decode name payload) e.rounded := by
  rw [encode_eq finite.isOwn] at h
  cases form : (Value.record e.fields).canonicalize with
  | error fault => rw [form] at h; cases h
  | ok payload' =>
    rw [form] at h
    cases h
    cases finite with
    | created =>
      cases document_empty.canonicalize.symm.trans form
      exact ⟨document_empty, .event .created⟩
    | closed =>
      cases document_empty.canonicalize.symm.trans form
      exact ⟨document_empty, .event .closed⟩
    | deposited left =>
      obtain ⟨t, rfl, alike⟩ := movement_decodes left "deposited" .deposited form
      refine ⟨document_amount t, ?_⟩
      show Event.Alike ((amountClass Event.depositedKind Event.deposit).decoder
        (.record [("amount", .str t)])) _
      rw [decode_amount]
      exact alike
    | withdrawn left =>
      obtain ⟨t, rfl, alike⟩ := movement_decodes left "withdrawn" .withdrawn form
      refine ⟨document_amount t, ?_⟩
      show Event.Alike ((amountClass Event.withdrawnKind Event.withdraw).decoder
        (.record [("amount", .str t)])) _
      rw [decode_amount]
      exact alike

/-- What is decoded of stored events, all of them, is the rounded events; or one of them cannot be
decoded, and has no rounded event. -/
theorem decode_encoded {events : List Event} {encoded : List (String × Value)}
    (h : List.Forall₂ (fun e p => e.Same e ∧ codec.encode e = .ok p) events encoded) :
    (∃ decoded roundeds, List.Forall₂ (fun p e => codec.decode p.1 p.2 = .ok e) encoded decoded ∧
      events.mapM Event.rounded = .ok roundeds ∧ List.Forall₂ Event.Same decoded roundeds) ∨
    (∃ p ∈ encoded, ∃ fault, codec.decode p.1 p.2 = .error fault) ∧
      ∃ fault, events.mapM Event.rounded = .error fault := by
  induction h with
  | nil => exact .inl ⟨[], [], .nil, rfl, .nil⟩
  | @cons e p events encoded form _ ih =>
    have alike := (decode_encode form.1 form.2).2
    generalize first : codec.decode p.1 p.2 = r at alike
    generalize first' : e.rounded = r' at alike
    cases alike with
    | fault fault fault' =>
      refine .inr ⟨⟨p, List.mem_cons_self .., fault, first⟩, fault', ?_⟩
      rw [List.mapM_cons, first']
      rfl
    | event same =>
      rcases ih with ⟨decoded, roundeds, decodes, rounds, others⟩ | ⟨⟨q, mem, fails⟩, fault, fails'⟩
      · refine .inl ⟨_, _, .cons first decodes, ?_, .cons same others⟩
        rw [List.mapM_cons, first', rounds]
        rfl
      · refine .inr ⟨⟨q, List.mem_cons_of_mem _ mem, fails⟩, fault, ?_⟩
        rw [List.mapM_cons, first', fails']
        rfl

/-! ## Amounts that need no rounding -/

/-- The amount, if there is one, needs no rounding. -/
def Event.Fits : Event → Prop
  | .deposited amount | .withdrawn amount => Decimal.Fits amount.value.value
  | _ => True

theorem movement_of_fits {a : Amount} (finite : a.value.isFinite = true)
    (fits : Decimal.Fits a.value.value) (movement : String) (wrap : Amount → Event) :
    ∃ a' : Amount, (do wrap <$> Amount.make movement (← liftSignal a.value.round)) =
        .ok (wrap a') ∧ a'.value.isFinite = true ∧ a.value.value = a'.value.value := by
  obtain ⟨d, round, finite', value⟩ := (Decimal.round_rounds finite).of_fits fits
  rcases Amount.make_cases movement finite' with ⟨neg, -⟩ | ⟨-, a', made, rfl⟩
  · exact absurd (Amount.value_pos finite) (not_lt.2 (value ▸ neg))
  · refine ⟨a', ?_, finite', value.symm⟩
    rw [round]
    show wrap <$> Amount.make movement a'.value = _
    rw [made]
    rfl

/-- Rounding an amount that fits does not change its number. -/
theorem rounded_of_fits {e : Event} (finite : e.Same e) (fits : e.Fits) :
    ∃ e', e.rounded = .ok e' ∧ e.Same e' := by
  cases finite with
  | created => exact ⟨_, rfl, .created⟩
  | closed => exact ⟨_, rfl, .closed⟩
  | deposited left =>
    obtain ⟨a', made, right, same⟩ := movement_of_fits left fits "deposited" .deposited
    exact ⟨_, made, .deposited left right same⟩
  | withdrawn left =>
    obtain ⟨a', made, right, same⟩ := movement_of_fits left fits "withdrawn" .withdrawn
    exact ⟨_, made, .withdrawn left right same⟩

/-- An amount that fits has a stored form, which is decoded as the same number. -/
theorem encode_of_fits {e : Event} (finite : e.Same e) (fits : e.Fits) :
    ∃ name payload e', codec.encode e = .ok (name, payload) ∧ payload.Document ∧
      codec.decode name payload = .ok e' ∧ e.Same e' := by
  have encodes : ∃ payload, codec.encode e = .ok (kind e, payload) := by
    rw [encode_eq finite.isOwn]
    cases finite with
    | created => exact ⟨_, congrArg (Except.map _) document_empty.canonicalize⟩
    | closed => exact ⟨_, congrArg (Except.map _) document_empty.canonicalize⟩
    | deposited left | withdrawn left =>
      obtain ⟨t, text⟩ := Decimal.canonical_of_fits left fits
      rw [Event.fields, canonicalize_amount, text]
      exact ⟨_, rfl⟩
  obtain ⟨payload, encodes⟩ := encodes
  obtain ⟨document, alike⟩ := decode_encode finite encodes
  obtain ⟨rounded, rounds, same⟩ := rounded_of_fits finite fits
  rw [rounds] at alike
  generalize decoded : codec.decode (kind e) payload = r at alike
  cases alike with
  | event same' => exact ⟨_, _, _, encodes, document, decoded, same.trans same'.symm⟩

theorem mapM_rounded_of_fits {events : List Event} (finite : ∀ e ∈ events, e.Same e)
    (fits : ∀ e ∈ events, e.Fits) :
    ∃ roundeds, events.mapM Event.rounded = .ok roundeds ∧
      List.Forall₂ Event.Same events roundeds := by
  induction events with
  | nil => exact ⟨[], rfl, .nil⟩
  | cons e events ih =>
    rw [List.forall_mem_cons] at finite fits
    obtain ⟨e', first, same⟩ := rounded_of_fits finite.1 fits.1
    obtain ⟨roundeds, others, alike⟩ := ih finite.2 fits.2
    refine ⟨e' :: roundeds, ?_, .cons same alike⟩
    rw [List.mapM_cons, first, others]
    rfl

end EventLedger.Account
