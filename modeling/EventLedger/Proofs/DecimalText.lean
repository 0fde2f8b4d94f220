import EventLedger.Decimal.Text
import EventLedger.Proofs.DecimalSums
import EventLedger.Proofs.Numerals

/-!
# The one text of a number

`normalize` rounds a decimal and writes the result with the fewest digits, so equal numbers have one
normal form (`normalize_congr`) and one canonical text (`canonical_congr`), which is the text of what
they are rounded to as well (`canonical_round`). Reading the plain text of a decimal gives back its
value (`parse?_plainChars`), so that a stored amount is read as its rounded value
(`parse_canonical`). What is not changed by that can be told from the number without zeros at its end
(`fits_magnitude_iff`).
-/

namespace EventLedger.Decimal

open Text

/-! ## Normal forms -/

theorem stripZeros_of_ne {c : Nat} (h : c % 10 ≠ 0) (e : Int) : stripZeros c e = (c, e) := by
  rw [stripZeros, dif_neg fun zeros => h zeros.2]

theorem stripZeros_mul_ten {c : Nat} (h : c ≠ 0) (e : Int) :
    stripZeros (c * 10) e = stripZeros c (e + 1) := by
  rw [stripZeros, dif_pos ⟨by omega, by omega⟩, Nat.mul_div_cancel _ (by decide)]

/-- What is left without the zeros at the end. -/
theorem stripZeros_spec {c : Nat} (h : c ≠ 0) (e : Int) :
    magnitude (stripZeros c e).1 (stripZeros c e).2 = magnitude c e ∧
      (stripZeros c e).1 % 10 ≠ 0 ∧ (stripZeros c e).1 ≤ c ∧ e ≤ (stripZeros c e).2 := by
  induction c using Nat.strongRecOn generalizing e with
  | ind c ih =>
    by_cases zero : c % 10 = 0
    · obtain ⟨d, rfl⟩ := Nat.dvd_of_mod_eq_zero zero
      rw [Nat.mul_comm] at h ⊢
      have hd : d ≠ 0 := by rintro rfl; exact h rfl
      obtain ⟨value, last, le, up⟩ := ih d (by omega) hd (e + 1)
      rw [stripZeros_mul_ten hd]
      refine ⟨?_, last, by omega, by omega⟩
      rw [value]
      have power := magnitude_mul_pow d 1 e
      rw [Nat.pow_one] at power
      exact power.symm
    · rw [stripZeros_of_ne zero]
      exact ⟨rfl, zero, le_rfl, le_rfl⟩

/-- A number is written in one way only without zeros at the end. -/
theorem eq_of_magnitude_eq {c d : Nat} {e f : Int} (hc : c % 10 ≠ 0) (hd : d % 10 ≠ 0)
    (same : magnitude c e = magnitude d f) : c = d ∧ e = f := by
  have aligned : ∀ {c d : Nat} {e f : Int}, c % 10 ≠ 0 → e ≤ f → magnitude c e = magnitude d f →
      c = d ∧ e = f := by
    intro c d e f hc le same
    have power := magnitude_mul_pow d (f - e).toNat e
    rw [Int.toNat_of_nonneg (by omega), add_sub_cancel, ← same, magnitude_inj] at power
    rcases Nat.eq_zero_or_pos (f - e).toNat with zero | pos
    · rw [zero, Nat.pow_zero, Nat.mul_one] at power
      exact ⟨power.symm, by omega⟩
    · obtain ⟨k, hk⟩ := Nat.exists_eq_succ_of_ne_zero pos.ne'
      rw [hk, Nat.pow_succ, ← Nat.mul_assoc] at power
      exact absurd (power ▸ Nat.mul_mod_left ..) hc
  rcases le_total e f with le | le
  · exact aligned hc le same
  · obtain ⟨h, h'⟩ := aligned hd le same.symm
    exact ⟨h.symm, h'.symm⟩

theorem stripZeros_congr {c d : Nat} {e f : Int} (hc : c ≠ 0)
    (same : magnitude c e = magnitude d f) : stripZeros c e = stripZeros d f := by
  have hd : d ≠ 0 := by
    rintro rfl
    rw [magnitude_zero] at same
    exact hc (magnitude_eq_zero.1 same)
  obtain ⟨value, last, -, -⟩ := stripZeros_spec hc e
  obtain ⟨value', last', -, -⟩ := stripZeros_spec hd f
  obtain ⟨h, h'⟩ := eq_of_magnitude_eq last last' (value.trans (same.trans value'.symm))
  exact Prod.ext h h'

/-- A decimal with the fewest digits for its number. -/
def shortest : Decimal → Decimal
  | .finite n c e =>
    if c = 0 then .finite n 0 0 else .finite n (stripZeros c e).1 (stripZeros c e).2
  | a => a

theorem normalize_eq (a : Decimal) : a.normalize = a.round.map shortest := by
  unfold normalize
  cases a.round with
  | error signal => rfl
  | ok b =>
    cases b with
    | finite n c e =>
      show (if c = 0 then _ else _) = Except.ok (if c = 0 then _ else _)
      split <;> rfl
    | _ => rfl

theorem withSign_inj {n m : Bool} {p q : ℚ} (hp : 0 < p) (hq : 0 < q)
    (same : withSign n p = withSign m q) : n = m ∧ p = q := by
  cases n <;> cases m <;> simp only [withSign_false, withSign_true] at same
  · exact ⟨rfl, same⟩
  · linarith
  · linarith
  · exact ⟨rfl, neg_inj.1 same⟩

theorem shortest_congr (n : Bool) {c d : Nat} {e f : Int} (same : magnitude c e = magnitude d f) :
    (finite n c e).shortest = (finite n d f).shortest := by
  rw [shortest, shortest]
  by_cases zero : c = 0
  · rw [zero, magnitude_zero, eq_comm, magnitude_eq_zero] at same
    rw [if_pos zero, if_pos same]
  · have ne : d ≠ 0 := by
      rintro rfl
      rw [magnitude_zero, magnitude_eq_zero] at same
      exact zero same
    rw [if_neg zero, if_neg ne, stripZeros_congr zero same]

/-- Rounding keeps the sign. -/
theorem roundFinite_sign {n m : Bool} {c d : Nat} {e f : Int}
    (h : roundFinite n c e = .ok (.finite m d f)) : m = n := by
  unfold roundFinite at h
  dsimp only at h
  split_ifs at h <;> cases h <;> rfl

/-- Equal numbers have one normal form. -/
theorem normalize_congr {a b : Decimal} (ha : a.isFinite = true) (hb : b.isFinite = true)
    (ne : a.value ≠ 0) (same : a.value = b.value) : a.normalize = b.normalize := by
  obtain ⟨n, c, e⟩ | _ | _ := a <;> cases ha
  obtain ⟨m, d, f⟩ | _ | _ := b <;> cases hb
  have hc : c ≠ 0 := fun zero => ne (by rw [value_finite, zero, magnitude_zero, withSign_zero])
  have hd : d ≠ 0 := fun zero =>
    ne (by rw [same, value_finite, zero, magnitude_zero, withSign_zero])
  obtain ⟨rfl, size⟩ := withSign_inj (magnitude_pos hc e) (magnitude_pos hd f) same
  have agree := (roundFinite_rounds n c e).agree (size ▸ roundFinite_rounds n d f)
  rw [normalize_eq, normalize_eq, round, round]
  generalize left : roundFinite n c e = r at agree ⊢
  generalize right : roundFinite n d f = r' at agree ⊢
  cases agree with
  | signal => rfl
  | @number a b ha hb value =>
    obtain ⟨n', c', e'⟩ | _ | _ := a <;> cases ha
    obtain ⟨m', d', f'⟩ | _ | _ := b <;> cases hb
    obtain rfl := roundFinite_sign left
    obtain rfl := roundFinite_sign right
    rw [value_finite, value_finite] at value
    refine congrArg Except.ok (shortest_congr m' ?_)
    cases m'
    · exact value
    · exact neg_inj.1 value

theorem round_rounds {a : Decimal} (h : a.isFinite = true) : Rounds a.value a.round := by
  obtain ⟨n, c, e⟩ | _ | _ := a <;> cases h
  exact roundFinite_rounds n c e

/-- Equal numbers have one canonical text. -/
theorem canonical_congr {a b : Decimal} (ha : a.isFinite = true) (hb : b.isFinite = true)
    (same : a.value = b.value) : a.canonical = b.canonical := by
  have zeros : a.equals zero = b.equals zero := by
    rw [equals_of_isFinite ha rfl, equals_of_isFinite hb rfl, same]
  unfold canonical
  rw [zeros]
  by_cases zero : b.value = 0
  · rw [equals_of_isFinite hb rfl, value_zero, decide_eq_true zero]
    rfl
  · rw [normalize_congr ha hb (same ▸ zero) same]

/-- A number that can be rounded has a canonical text. -/
theorem canonical_of_round {a b : Decimal} (h : a.isFinite = true) (rounds : a.round = .ok b) :
    ∃ t, a.canonical = .ok t := by
  rw [canonical, equals_of_isFinite h rfl, normalize_eq, rounds]
  cases decide (a.value = zero.value) with
  | true => exact ⟨_, rfl⟩
  | false => exact ⟨_, rfl⟩

/-- A number that fits has a canonical text. -/
theorem canonical_of_fits {a : Decimal} (h : a.isFinite = true) (fits : Fits a.value) :
    ∃ t, a.canonical = .ok t := by
  obtain ⟨b, rounds, -⟩ := (round_rounds h).of_fits fits
  exact canonical_of_round h rounds

/-- A number that is not rounded to zero has the canonical text of what it is rounded to. -/
theorem canonical_round {a b : Decimal} (h : a.isFinite = true) (rounds : a.round = .ok b)
    (ne : b.value ≠ 0) : a.canonical = b.canonical := by
  have rounded := round_rounds h
  rw [rounds] at rounded
  obtain ⟨finite, fits⟩ := rounded.fits
  obtain ⟨c, again, finite', same⟩ := (round_rounds finite).of_fits fits
  have zero : a.value ≠ 0 := by
    intro zero
    cases rounded with
    | number value =>
      apply ne
      rw [value_finite, value, zero, rounded_of_nonneg le_rfl, nearest_zero]
  have normal : a.normalize = b.normalize := by
    rw [normalize_eq, normalize_eq, rounds, again]
    obtain ⟨n, d, e⟩ | _ | _ := b <;> cases finite
    obtain ⟨m, d', e'⟩ | _ | _ := c <;> cases finite'
    obtain rfl := roundFinite_sign again
    rw [value_finite, value_finite] at same
    refine congrArg Except.ok (shortest_congr m ?_)
    cases m
    · exact same.symm
    · exact neg_inj.1 same.symm
  rw [canonical, canonical, equals_of_isFinite h rfl, equals_of_isFinite finite rfl, value_zero,
    decide_eq_false zero, decide_eq_false ne, normal]

/-! ## Plain texts -/

/-- The characters of plain texts. -/
def IsPlain (c : Char) : Prop :=
  c.isDigit = true ∨ c = '-' ∨ c = '.'

theorem digitValue?_of_isDigit {c : Char} (h : c.isDigit = true) :
    digitValue? c = some (c.toNat - 48) := by
  obtain ⟨low, high⟩ := isDigit_iff.1 h
  rw [digitValue?, zeros, List.find?_cons_of_pos]
  · rfl
  · simp only [Bool.and_eq_true, decide_eq_true_eq]
    omega

theorem isBlank_of_isPlain {c : Char} (h : IsPlain c) : isBlank c = false := by
  rcases h with digit | rfl | rfl
  · obtain ⟨low, high⟩ := isDigit_iff.1 digit
    simp only [isBlank, Bool.or_eq_false_iff, Bool.and_eq_false_iff, decide_eq_false_iff_not,
      beq_eq_false_iff_ne]
    omega
  · rfl
  · rfl

theorem asciiDigit_of_isPlain {c : Char} (h : IsPlain c) :
    ((digitValue? c).map digitChar).getD c = c := by
  rcases h with digit | rfl | rfl
  · rw [digitValue?_of_isDigit digit]
    exact digitChar_of_isDigit digit
  · rfl
  · rfl

/-- A plain text is read as it stands. -/
theorem plainInput_eq_self {cs : List Char} (h : ∀ c ∈ cs, IsPlain c) : plainInput cs = cs := by
  have ends : strip cs = cs :=
    strip_eq_self (fun c mem => isBlank_of_isPlain (h c (List.mem_of_mem_head? mem)))
      fun c mem => isBlank_of_isPlain (h c (List.mem_of_mem_getLast? mem))
  have kept : cs.filter (· != '_') = cs := by
    refine List.filter_eq_self.2 fun c mem => ?_
    rcases h c mem with digit | rfl | rfl
    · rw [bne_iff_ne]
      rintro rfl
      cases digit
    · rfl
    · rfl
  rw [plainInput, ends, kept, asciiDigits]
  exact (List.map_congr_left fun c mem => asciiDigit_of_isPlain (h c mem)).trans (List.map_id cs)

/-- A plain text that begins with a digit and is read as a coefficient and an exponent. -/
structure ReadsAs (cs : List Char) (parts : Nat × Int) : Prop where
  digit : ∃ d ds, cs = d :: ds ∧ d.isDigit = true
  plain : ∀ c ∈ cs, IsPlain c
  parts : readParts? cs = some parts

theorem readsAs_digits {ds : List Char} (digits : ∀ d ∈ ds, d.isDigit = true) (ne : ds ≠ []) :
    ReadsAs ds (ofChars ds, 0) where
  digit := by
    obtain ⟨d, ds, rfl⟩ := List.exists_cons_of_ne_nil ne
    exact ⟨d, ds, rfl, digits d (List.mem_cons_self ..)⟩
  plain c mem := .inl (digits c mem)
  parts := by
    obtain ⟨whole, rest⟩ := takeWhile_isDigit digits [] nofun
    rw [List.append_nil] at whole rest
    simp [readParts?, whole, rest, ne, readExponent?]

theorem readsAs_point {whole places : List Char} (digits : ∀ d ∈ whole ++ places, d.isDigit = true)
    (ne : whole ≠ []) :
    ReadsAs (whole ++ '.' :: places) (ofChars (whole ++ places), -(places.length : Int)) := by
  rw [List.forall_mem_append] at digits
  refine ⟨?_, ?_, ?_⟩
  · obtain ⟨d, ds, rfl⟩ := List.exists_cons_of_ne_nil ne
    exact ⟨d, _, rfl, digits.1 d (List.mem_cons_self ..)⟩
  · intro c mem
    rw [List.mem_append, List.mem_cons] at mem
    rcases mem with mem | rfl | mem
    · exact .inl (digits.1 c mem)
    · exact .inr (.inr rfl)
    · exact .inl (digits.2 c mem)
  · obtain ⟨front, behind⟩ := takeWhile_isDigit digits.1 ('.' :: places) (by rintro c ⟨⟩; rfl)
    obtain ⟨front', behind'⟩ := takeWhile_isDigit digits.2 [] nofun
    rw [List.append_nil] at front' behind'
    simp [readParts?, front, behind, front', behind', ne, readExponent?]

/-- Where the point is put: behind at least one digit, and in front of the given number of them. -/
theorem insertPoint_cases (ds : List Char) (places : Nat) (ne : ds ≠ []) :
    (places = 0 ∧ insertPoint ds places = ds) ∨
      ∃ k whole fraction, insertPoint ds places = whole ++ '.' :: fraction ∧ whole ≠ [] ∧
        fraction.length = places ∧ whole ++ fraction = List.replicate k '0' ++ ds ∧
        (k = 0 ∨ whole.length = 1) := by
  unfold insertPoint
  by_cases zero : places = 0
  · exact .inl ⟨zero, if_pos zero⟩
  · rw [if_neg zero]
    have pos := List.length_pos_of_ne_nil ne
    refine .inr ⟨places + 1 - ds.length, _, _, rfl, ?_, ?_, List.take_append_drop .., ?_⟩
    · refine List.ne_nil_of_length_pos ?_
      rw [List.length_take, List.length_append, List.length_replicate]
      omega
    · rw [List.length_drop, List.length_append, List.length_replicate]
      omega
    · rw [List.length_take, List.length_append, List.length_replicate]
      omega

theorem isDigit_of_mem_zeros {k : Nat} {d : Char} (mem : d ∈ List.replicate k '0') :
    d.isDigit = true := by
  rw [List.eq_of_mem_replicate mem]
  rfl

theorem isDigit_of_mem_padded {k c : Nat} :
    ∀ d ∈ List.replicate k '0' ++ natChars c, d.isDigit = true :=
  List.forall_mem_append.2 ⟨fun _ => isDigit_of_mem_zeros, fun _ => isDigit_of_mem_natChars⟩

/-- A point in front of the last places is read as an exponent. -/
theorem readsAs_insertPoint (c places : Nat) :
    ReadsAs (insertPoint (natChars c) places) (c, -places) := by
  rcases insertPoint_cases (natChars c) places (natChars_ne_nil c) with
    ⟨rfl, same⟩ | ⟨k, whole, fraction, point, ne, rfl, parts, -⟩
  · have reads := readsAs_digits (fun d mem => isDigit_of_mem_natChars mem) (natChars_ne_nil c)
    rw [ofChars_natChars] at reads
    rw [same]
    exact reads
  · have all : ∀ d ∈ whole ++ fraction, d.isDigit = true := parts ▸ isDigit_of_mem_padded
    have reads := readsAs_point all ne
    rw [parts, ofChars_zeros_append, ofChars_natChars] at reads
    rw [point]
    exact reads

/-- The text of a number that is not negative is read as its parts; an exponent above zero is
written out. -/
theorem readsAs_plain (c : Nat) (e : Int) :
    ReadsAs (if e ≤ 0 then insertPoint (natChars c) e.natAbs
        else natChars c ++ List.replicate e.toNat '0')
      (if e ≤ 0 then (c, e) else (c * 10 ^ e.toNat, 0)) := by
  split
  next small =>
    have places : -(e.natAbs : Int) = e := by omega
    have reads := readsAs_insertPoint c e.natAbs
    rw [places] at reads
    exact reads
  next large =>
    have all : ∀ d ∈ natChars c ++ List.replicate e.toNat '0', d.isDigit = true := by
      rw [List.forall_mem_append]
      exact ⟨fun d => isDigit_of_mem_natChars, fun d => isDigit_of_mem_zeros⟩
    have reads := readsAs_digits all (List.append_ne_nil_of_left_ne_nil (natChars_ne_nil c) _)
    rw [ofChars_append_zeros, ofChars_natChars] at reads
    exact reads

theorem readPlain?_digit (n : Bool) {d : Char} (digit : d.isDigit = true) (ds : List Char) :
    readPlain? (signChars n ++ d :: ds) = readNumber? n (d :: ds) := by
  obtain ⟨low, high⟩ := isDigit_iff.1 digit
  have sign : splitSign (signChars n ++ d :: ds) = (n, d :: ds) := by
    cases n with
    | true => rfl
    | false =>
      show splitSign (d :: ds) = _
      unfold splitSign
      split
      next eq => exact absurd eq (digit_cons_ne digit rfl _ _)
      next eq => exact absurd eq (digit_cons_ne digit rfl _ _)
      next => rfl
  have lower : d.toLower = d := by
    refine dif_neg ?_
    rintro ⟨upper, -⟩
    have := UInt32.le_iff_toNat_le.1 upper
    change 65 ≤ d.toNat at this
    omega
  rw [readPlain?, sign]
  dsimp only
  rw [List.map_cons, lower]
  split
  next eq => exact absurd eq (digit_cons_ne digit rfl _ _)
  next eq => exact absurd eq (digit_cons_ne digit rfl _ _)
  next eq => exact absurd eq (digit_cons_ne digit rfl _ _)
  next eq => exact absurd eq (digit_cons_ne digit rfl _ _)
  next => rfl

theorem parse?_plain {n : Bool} {cs : List Char} {parts : Nat × Int} (reads : ReadsAs cs parts) :
    parse? (String.ofList (signChars n ++ cs)) = ofParts? n parts.1 parts.2 := by
  have plain : ∀ c ∈ signChars n ++ cs, IsPlain c := by
    rw [List.forall_mem_append]
    refine ⟨fun c mem => ?_, reads.plain⟩
    cases n with
    | true => exact .inr (.inl (List.mem_singleton.1 mem))
    | false => cases mem
  obtain ⟨d, ds, rfl, digit⟩ := reads.digit
  rw [parse?, String.toList_ofList, plainInput_eq_self plain, readPlain?_digit n digit, readNumber?,
    reads.parts]
  rfl

/-- Reading a plain text gives back the value. -/
theorem parse?_plainChars (n : Bool) {c : Nat} {e : Int} (low : minReadUnit ≤ e)
    (high : adjusted c e ≤ maxReadExponent) :
    ∃ b, parse? (String.ofList (plainChars (.finite n c e))) = some b ∧ b.isFinite = true ∧
      b.value = withSign n (magnitude c e) := by
  rw [plainChars, parse?_plain (readsAs_plain c e), ofParts?]
  split
  next small =>
    rw [if_pos ⟨low, high⟩]
    exact ⟨_, rfl, rfl, rfl⟩
  next large =>
    have value : magnitude (c * 10 ^ e.toNat) 0 = magnitude c e := by
      rw [magnitude_mul_pow]
      congr 1
      omega
    have top : adjusted (c * 10 ^ e.toNat) 0 ≤ maxReadExponent := by
      rcases eq_or_ne c 0 with rfl | ne
      · rw [Nat.zero_mul, adjusted, digitCount]
        decide
      · have ne' : c * 10 ^ e.toNat ≠ 0 := Nat.mul_ne_zero ne (by positivity)
        rw [← log_magnitude ne', value, log_magnitude ne]
        exact high
    have bottom : minReadUnit ≤ 0 := by decide
    rw [if_pos ⟨bottom, top⟩]
    exact ⟨_, rfl, rfl, congrArg (withSign n) value⟩

theorem adjusted_le_of_lt_limit {c : Nat} {e : Int} (ne : c ≠ 0) (small : magnitude c e < limit) :
    adjusted c e ≤ maxExponent := by
  have below := (zpow_adjusted_le ne e).trans_lt small
  rw [limit, zpow_lt_zpow_iff_right₀ (by norm_num)] at below
  omega

/-- The numbers that need no rounding, written without zeros at the end. -/
theorem fits_magnitude_iff {c : Nat} (last : c % 10 ≠ 0) (e : Int) :
    Fits (magnitude c e) ↔
      digitCount c ≤ precision ∧ minUnit ≤ e ∧ adjusted c e ≤ maxExponent := by
  have hc : c ≠ 0 := by rintro rfl; exact last rfl
  constructor
  · rintro ⟨n, d, f, same, digits, unit, small⟩
    have hd : d ≠ 0 := by
      rintro rfl
      rw [magnitude_zero, withSign_zero] at same
      exact (magnitude_pos hc e).ne' same
    obtain ⟨-, same⟩ : false = n ∧ _ := withSign_inj (magnitude_pos hc e) (magnitude_pos hd f) same
    obtain ⟨value, last', le, up⟩ := stripZeros_spec hd f
    obtain ⟨rfl, rfl⟩ := eq_of_magnitude_eq last last' (same.trans value.symm)
    refine ⟨(digitCount_le_iff (by decide)).2 (le.trans_lt digits), unit.trans up, ?_⟩
    exact adjusted_le_of_lt_limit hc (same ▸ small)
  · rintro ⟨digits, unit, top⟩
    exact ⟨false, c, e, rfl, (digitCount_le_iff (by decide)).1 digits, unit,
      lt_limit_of_adjusted_lt top⟩

/-- A canonical text is read as the rounded value. -/
theorem parse_canonical {a : Decimal} (h : a.isFinite = true) {t : String}
    (text : a.canonical = .ok t) :
    ∃ b, parse t = .ok b ∧ b.isFinite = true ∧ b.value = rounded a.value := by
  have ranges : minReadUnit ≤ minUnit ∧ maxExponent ≤ maxReadExponent ∧ minReadUnit ≤ 0 ∧
    (0 : Int) ≤ maxReadExponent := by decide
  have zeros : adjusted 0 0 = 0 := by
    rw [adjusted, digitCount]
    rfl
  have plain : ∀ n c e, minReadUnit ≤ e → adjusted c e ≤ maxReadExponent →
      withSign n (magnitude c e) = rounded a.value →
      ∃ b, parse (String.ofList (plainChars (.finite n c e))) = .ok b ∧ b.isFinite = true ∧
        b.value = rounded a.value := by
    intro n c e low high value
    obtain ⟨b, read, finite, same⟩ := parse?_plainChars n low high
    exact ⟨b, by rw [parse, read], finite, same.trans value⟩
  rw [canonical, equals_of_isFinite h rfl, value_zero] at text
  by_cases zero : a.value = 0
  · rw [decide_eq_true zero] at text
    cases text
    have zeroText : "0" = String.ofList (plainChars (.finite false 0 0)) := by
      rw [plainChars, if_pos le_rfl, natChars, digits]
      rfl
    rw [zeroText]
    refine plain false 0 0 ranges.2.2.1 (zeros.trans_le ranges.2.2.2) ?_
    rw [magnitude_zero, withSign_zero, zero, rounded_of_nonneg le_rfl, nearest_zero]
  · rw [decide_eq_false zero, normalize_eq] at text
    have rounds := round_rounds h
    generalize a.round = r at rounds text
    cases rounds with
    | overflow => cases text
    | @number n c e value digits unit small =>
      cases text
      rw [shortest]
      split
      next hc =>
        refine plain n 0 0 ranges.2.2.1 (zeros.trans_le ranges.2.2.2) ?_
        rw [← value, hc, magnitude_zero, magnitude_zero]
      next hc =>
        obtain ⟨same, -, -, up⟩ := stripZeros_spec hc e
        have hc' : (stripZeros c e).1 ≠ 0 := by
          intro none
          rw [none, magnitude_zero] at same
          exact (magnitude_pos hc e).ne same
        have top := adjusted_le_of_lt_limit hc' (same ▸ small)
        exact plain n _ _ (by omega) (by omega) (same ▸ value)

/-- A number that needs no rounding is read back from its canonical text. -/
theorem parse_canonical_of_fits {a : Decimal} (h : a.isFinite = true) (fits : Fits a.value) :
    ∃ t b, a.canonical = .ok t ∧ parse t = .ok b ∧ b.isFinite = true ∧ b.value = a.value := by
  obtain ⟨t, text⟩ := canonical_of_fits h fits
  obtain ⟨b, read, finite, value⟩ := parse_canonical h text
  exact ⟨t, b, text, read, finite, value.trans fits.rounded_eq⟩

end EventLedger.Decimal
