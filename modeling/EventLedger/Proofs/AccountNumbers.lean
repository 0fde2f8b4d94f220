import EventLedger.Account.Tables
import EventLedger.Proofs.DecimalText
import EventLedger.Proofs.Documents

/-!
# Accounts by their numbers

Of balances and amounts only the numbers matter, not how they are written: events with the same
numbers lead states with the same numbers to states with the same numbers, or to the same failure
(`fold_alike`). Such states are equal and have one hash (`State.Same.equals`, `State.Same.hash`). The
balance of a state that finite amounts led to fits into 28 digits (`fits_of_fold`), so that it has a
hash.
-/

namespace EventLedger.Account

open Decimal (Fits Agree value)

/-- Two states with finite balances that are the same number. -/
inductive State.Same : State → State → Prop
  | empty : Same .empty .empty
  | opened {b b' : Balance} (left : b.value.isFinite = true) (right : b'.value.isFinite = true)
    (same : b.value.value = b'.value.value) : Same (.opened b) (.opened b')
  | closed : Same .closed .closed

/-- Two events of one kind with finite amounts that are the same number. -/
inductive Event.Same : Event → Event → Prop
  | created : Same .created .created
  | deposited {a a' : Amount} (left : a.value.isFinite = true) (right : a'.value.isFinite = true)
    (same : a.value.value = a'.value.value) : Same (.deposited a) (.deposited a')
  | withdrawn {a a' : Amount} (left : a.value.isFinite = true) (right : a'.value.isFinite = true)
    (same : a.value.value = a'.value.value) : Same (.withdrawn a) (.withdrawn a')
  | closed : Same .closed .closed

/-- Two results that are the same up to how numbers are written. -/
inductive Alike : Except (Failure State Event) State → Except (Failure State Event) State → Prop
  | state {s s' : State} (same : s.Same s') : Alike (.ok s) (.ok s')
  | illegal {s s' : State} {e e' : Event} (state : s.Same s') (event : e.Same e') :
    Alike (.error (.illegalFold s e)) (.error (.illegalFold s' e'))
  | fault (fault : Fault) : Alike (.error (.fault fault)) (.error (.fault fault))

theorem State.Same.symm {s s' : State} (h : s.Same s') : s'.Same s := by
  cases h with
  | empty => exact .empty
  | opened left right same => exact .opened right left same.symm
  | closed => exact .closed

theorem State.Same.trans {s s' s'' : State} (h : s.Same s') (h' : s'.Same s'') : s.Same s'' := by
  cases h with
  | empty => exact h'
  | opened left _ same =>
    cases h' with
    | opened _ right same' => exact .opened left right (same.trans same')
  | closed => exact h'

theorem State.Same.left {s s' : State} (h : s.Same s') : s.Same s :=
  h.trans h.symm

theorem Event.Same.symm {e e' : Event} (h : e.Same e') : e'.Same e := by
  cases h with
  | created => exact .created
  | deposited left right same => exact .deposited right left same.symm
  | withdrawn left right same => exact .withdrawn right left same.symm
  | closed => exact .closed

theorem Event.Same.trans {e e' e'' : Event} (h : e.Same e') (h' : e'.Same e'') : e.Same e'' := by
  cases h with
  | created => exact h'
  | deposited left _ same =>
    cases h' with
    | deposited _ right same' => exact .deposited left right (same.trans same')
  | withdrawn left _ same =>
    cases h' with
    | withdrawn _ right same' => exact .withdrawn left right (same.trans same')
  | closed => exact h'

theorem Balance.make_cases {d : Decimal} (finite : d.isFinite = true) :
    (d.value < 0 ∧ make d = .error (.invalid .negativeBalance)) ∨
      0 ≤ d.value ∧ ∃ b : Balance, make d = .ok b ∧ b.value = d := by
  have sign := Decimal.less_of_isFinite finite (rfl : Decimal.zero.isFinite = true)
  rw [Decimal.value_zero] at sign
  unfold make
  split
  next h =>
    rw [sign] at h
    exact .inr ⟨not_lt.1 (of_decide_eq_false (Except.ok.inj h)), _, rfl, rfl⟩
  next h =>
    rw [sign] at h
    exact .inl ⟨of_decide_eq_true (Except.ok.inj h), rfl⟩
  next h => rw [sign] at h; cases h

theorem make_alike {r r' : Except Decimal.Signal Decimal} (h : Agree r r') :
    Alike (leadingTo (liftSignal r >>= Balance.make))
      (leadingTo (liftSignal r' >>= Balance.make)) := by
  cases h with
  | signal s => exact .fault _
  | @number d d' left right same =>
    show Alike (leadingTo (Balance.make d)) (leadingTo (Balance.make d'))
    rcases Balance.make_cases left with ⟨neg, made⟩ | ⟨pos, b, made, rfl⟩
    · rcases Balance.make_cases right with ⟨-, made'⟩ | ⟨pos', -⟩
      · rw [made, made']; exact .fault _
      · exact absurd (same ▸ pos') (not_le.2 neg)
    · rcases Balance.make_cases right with ⟨neg', -⟩ | ⟨-, b', made', rfl⟩
      · exact absurd (same ▸ pos) (not_le.2 neg')
      · rw [made, made']; exact .state (.opened left right same)

section

variable {b b' : Balance} {d d' : Decimal} (left : b.value.isFinite = true)
  (right : b'.value.isFinite = true) (same : b.value.value = b'.value.value)
  (left' : d.isFinite = true) (right' : d'.isFinite = true) (same' : d.value = d'.value)
include left right same

theorem isZero_congr : b.isZero = b'.isZero := by
  rw [Balance.isZero, Balance.isZero, Decimal.equals_of_isFinite left rfl,
    Decimal.equals_of_isFinite right rfl, same]

include left' right' same'

theorem add_agree : Agree (b.value.add d) (b'.value.add d') :=
  (Decimal.add_rounds left left').agree
    (by rw [same, same']; exact Decimal.add_rounds right right')

theorem sub_agree : Agree (b.value.sub d) (b'.value.sub d') :=
  (Decimal.sub_rounds left left').agree
    (by rw [same, same']; exact Decimal.sub_rounds right right')

theorem canWithdraw_congr : b.canWithdraw d = b'.canWithdraw d' := by
  have agree := sub_agree left right same left' right' same'
  rw [Balance.canWithdraw, Balance.canWithdraw]
  generalize b.value.sub d = r at agree ⊢
  generalize b'.value.sub d' = r' at agree ⊢
  cases agree with
  | signal s => rfl
  | @number x x' finite finite' value =>
    show liftSignal (Decimal.atMost .zero x) = liftSignal (Decimal.atMost .zero x')
    rw [Decimal.atMost_of_isFinite rfl finite, Decimal.atMost_of_isFinite rfl finite', value]

end

/-- One event leads the same numbers to the same numbers. -/
theorem apply_alike {s s' : State} {e e' : Event} (state : s.Same s') (event : e.Same e') :
    Alike (applier.apply s e) (applier.apply s' e') := by
  cases state with
  | empty =>
    cases event with
    | created => exact .state (.opened rfl rfl rfl)
    | deposited left right same => exact .illegal .empty (.deposited left right same)
    | withdrawn left right same => exact .illegal .empty (.withdrawn left right same)
    | closed => exact .illegal .empty .closed
  | closed =>
    cases event with
    | created => exact .illegal .closed .created
    | deposited left right same => exact .illegal .closed (.deposited left right same)
    | withdrawn left right same => exact .illegal .closed (.withdrawn left right same)
    | closed => exact .illegal .closed .closed
  | @opened b b' left right same =>
    cases event with
    | created => exact .illegal (.opened left right same) .created
    | deposited left' right' same' =>
      exact make_alike (add_agree left right same left' right' same')
    | @withdrawn a a' left' right' same' =>
      have covered := canWithdraw_congr left right same left' right' same'
      have event : Event.Same (.withdrawn a) (.withdrawn a') := .withdrawn left' right' same'
      have left'' := make_alike (sub_agree left right same left' right' same')
      show Alike (onOpenedEvent (.opened b) (.withdrawn a))
        (onOpenedEvent (.opened b') (.withdrawn a'))
      rw [onOpenedEvent, onOpenedEvent, covered]
      cases b'.canWithdraw a'.value with
      | error fault => exact .fault fault
      | ok covered =>
        cases covered with
        | false => exact .illegal (.opened left right same) event
        | true => exact left''
    | closed =>
      have zero := isZero_congr left right same
      show Alike (onOpenedEvent (.opened b) .closed) (onOpenedEvent (.opened b') .closed)
      rw [onOpenedEvent, onOpenedEvent, zero]
      cases b'.isZero with
      | error fault => exact .fault fault
      | ok zero =>
        cases zero with
        | false => exact .illegal (.opened left right same) .closed
        | true => exact .state .closed

/-- Events with the same numbers lead the same numbers to the same numbers. -/
theorem fold_alike {s s' : State} {events events' : List Event} (state : s.Same s')
    (h : List.Forall₂ Event.Same events events') :
    Alike (applier.fold s events) (applier.fold s' events') := by
  induction h generalizing s s' with
  | nil => exact .state state
  | @cons e e' _ _ event _ ih =>
    have first := apply_alike state event
    rw [Applier.fold_cons, Applier.fold_cons]
    generalize applier.apply s e = r at first ⊢
    generalize applier.apply s' e' = r' at first ⊢
    cases first with
    | state same => exact ih same
    | illegal state event => exact .illegal state event
    | fault fault => exact .fault fault

theorem fold_same {s s' t : State} {events events' : List Event} (state : s.Same s')
    (h : List.Forall₂ Event.Same events events') (folded : applier.fold s events = .ok t) :
    ∃ t', applier.fold s' events' = .ok t' ∧ t.Same t' := by
  have alike := fold_alike state h
  rw [folded] at alike
  generalize applier.fold s' events' = r at alike ⊢
  cases alike with
  | state same => exact ⟨_, rfl, same⟩

/-! ## Balances that fit -/

/-- The balance is finite and needs no rounding. -/
inductive State.Fits : State → Prop
  | empty : Fits .empty
  | opened {b : Balance} (finite : b.value.isFinite = true) (fits : Decimal.Fits b.value.value) :
    Fits (.opened b)
  | closed : Fits .closed

theorem State.Fits.same {s : State} (h : s.Fits) : s.Same s := by
  cases h with
  | empty => exact .empty
  | opened finite => exact .opened finite finite rfl
  | closed => exact .closed

theorem fits_of_make {q : ℚ} {r : Except Decimal.Signal Decimal} (rounds : Decimal.Rounds q r)
    {s : State} (h : leadingTo (liftSignal r >>= Balance.make) = .ok s) : s.Fits := by
  cases r with
  | error signal => cases h
  | ok d =>
    obtain ⟨finite, fits⟩ := rounds.fits
    change leadingTo (Balance.make d) = .ok s at h
    rcases Balance.make_cases finite with ⟨-, made⟩ | ⟨-, b, made, rfl⟩
    · rw [made] at h; cases h
    · rw [made] at h; cases h; exact .opened finite fits

theorem fits_of_apply {s s' : State} (state : s.Fits) {e : Event} (event : e.Same e)
    (h : applier.apply s e = .ok s') : s'.Fits := by
  cases state with
  | empty =>
    cases event with
    | created => cases h; exact .opened rfl (Decimal.value_zero ▸ Decimal.fits_zero)
    | _ => cases h
  | closed => cases event <;> cases h
  | @opened b finite fits =>
    cases event with
    | created => cases h
    | deposited left => exact fits_of_make (Decimal.add_rounds finite left) h
    | @withdrawn a _ left =>
      change onOpenedEvent (.opened b) (.withdrawn a) = .ok s' at h
      rw [onOpenedEvent] at h
      cases covered : b.canWithdraw a.value with
      | error fault => rw [covered] at h; cases h
      | ok covers =>
        rw [covered] at h
        cases covers with
        | false => cases h
        | true => exact fits_of_make (Decimal.sub_rounds finite left) h
    | closed =>
      change onOpenedEvent (.opened b) .closed = .ok s' at h
      rw [onOpenedEvent] at h
      cases zero : b.isZero with
      | error fault => rw [zero] at h; cases h
      | ok empty =>
        rw [zero] at h
        cases empty with
        | false => cases h
        | true => cases h; exact .closed

/-- Finite amounts lead to balances that fit. -/
theorem fits_of_fold {s s' : State} (state : s.Fits) {events : List Event}
    (finite : ∀ e ∈ events, e.Same e) (h : applier.fold s events = .ok s') : s'.Fits := by
  induction events generalizing s with
  | nil => cases h; exact state
  | cons e events ih =>
    rw [List.forall_mem_cons] at finite
    rw [Applier.fold_cons] at h
    cases first : applier.apply s e with
    | error failure => rw [first] at h; cases h
    | ok s'' =>
      rw [first] at h
      exact ih (fits_of_apply state finite.1 first) finite.2 h

/-! ## Equality and hashes -/

/-- Whether two states are equal: their balances are compared as numbers. -/
def State.equals : State → State → Except Decimal.Signal Bool
  | .empty, .empty | .closed, .closed => .ok true
  | .opened b, .opened b' => b.value.equals b'.value
  | _, _ => .ok false

theorem State.Same.equals {s s' : State} (h : s.Same s') : s.equals s' = .ok true := by
  cases h with
  | empty => rfl
  | opened left right same =>
    rw [State.equals, Decimal.equals_of_isFinite left right, decide_eq_true same]
  | closed => rfl

theorem State.same_of_equals {s s' : State} (hs : s.Same s) (hs' : s'.Same s')
    (h : s.equals s' = .ok true) : s.Same s' := by
  cases hs with
  | empty => cases hs' <;> first | exact .empty | cases h
  | closed => cases hs' <;> first | exact .closed | cases h
  | opened finite =>
    cases hs' with
    | opened finite' =>
      rw [State.equals, Decimal.equals_of_isFinite finite finite'] at h
      exact .opened finite finite' (of_decide_eq_true (Except.ok.inj h))
    | _ => cases h

theorem State.Same.describe {s s' : State} (h : s.Same s') : s.describe = s'.describe := by
  cases h with
  | empty => rfl
  | opened left right same =>
    rw [State.describe, State.describe, Decimal.canonical_congr left right same]
  | closed => rfl

theorem State.Same.hash {s s' : State} (h : s.Same s') : s.hash = s'.hash := by
  rw [State.hash, State.hash, h.describe]

/-- A record of texts has a canonical text, which is read as its fields in order. -/
theorem exists_chars_texts {fields sorted : List (String × Value)}
    (texts : ∀ f ∈ fields, Value.Document f.2) (same : sorted.Perm fields)
    (order : sorted.Pairwise fun f g => f.1 < g.1) (nonempty : sorted ≠ []) :
    ∃ cs, (Value.record fields).canonicalChars = .ok cs ∧
      Json.Reads (Text.chars cs) (.record sorted) := by
  obtain ⟨cs, text, reads⟩ := Value.canonicalChars_record
    (List.forall₂_same.2 fun f mem => (texts f mem).field f.1) same order nonempty
  exact ⟨_, text, reads⟩

/-- The canonical form of the document that describes a state. -/
inductive State.Form : State → Value → Prop
  | empty : Form .empty (.record [("status", .str "empty")])
  | opened {b : Balance} {t : String} (text : b.value.canonical = .ok t) :
    Form (.opened b) (.record [("balance", .str t), ("status", .str "opened")])
  | closed : Form .closed (.record [("status", .str "closed")])

/-- The bytes that a state is hashed as. -/
def State.bytes (s : State) : Except Fault (List UInt8) := do
  (← s.describe).canonicalBytes

theorem State.hash_of_bytes {s : State} {bytes : List UInt8} (h : s.bytes = .ok bytes) :
    s.hash = .ok (Sha256.hexDigest bytes) := by
  obtain ⟨v, described, written⟩ := exists_of_bind_ok h
  rw [State.hash, described]
  exact congrArg (·.map Sha256.hexDigest) written

/-- A state whose balance fits is hashed as a text that is read as the form of the state. -/
theorem State.Fits.bytes {s : State} (h : s.Fits) :
    ∃ p cs, s.Form p ∧ Json.Reads (Text.chars cs) p ∧ s.bytes = .ok (Text.encode cs) := by
  have status : ∀ text, ∃ cs, (Value.record [("status", .str text)]).canonicalChars = .ok cs ∧
      Json.Reads (Text.chars cs) (.record [("status", .str text)]) := fun text =>
    exists_chars_texts (by simp [Value.Document.str]) (.refl _) (by simp) (List.cons_ne_nil _ _)
  have encodes : ∀ {v : Value} {cs : List Char}, s.describe = .ok v → v.canonicalChars = .ok cs →
      s.bytes = .ok (Text.encode cs) := fun described text => by
    rw [State.bytes, described]
    exact congrArg (·.map Text.encode) text
  cases h with
  | empty =>
    obtain ⟨cs, text, reads⟩ := status "empty"
    exact ⟨_, cs, .empty, reads, encodes rfl text⟩
  | closed =>
    obtain ⟨cs, text, reads⟩ := status "closed"
    exact ⟨_, cs, .closed, reads, encodes rfl text⟩
  | @opened b finite fits =>
    obtain ⟨t, shown⟩ := Decimal.canonical_of_fits finite fits
    obtain ⟨cs, text, reads⟩ := @exists_chars_texts
      [("status", .str "opened"), ("balance", .str t)] _ (by simp [Value.Document.str]) (.swap ..)
      (Value.order_of_names ["balance", "status"] rfl (by decide)) (List.cons_ne_nil _ _)
    refine ⟨_, cs, .opened shown, reads, encodes ?_ text⟩
    rw [describe, shown]
    rfl

/-- A state whose balance fits has a hash. -/
theorem State.Fits.hash {s : State} (h : s.Fits) : ∃ hash, s.hash = .ok hash := by
  obtain ⟨-, cs, -, -, bytes⟩ := h.bytes
  exact ⟨_, State.hash_of_bytes bytes⟩

end EventLedger.Account
