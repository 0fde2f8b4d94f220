import EventLedger.Proofs.DecimalText

/-!
# The plain notation of numbers

A canonical text is a plain numeral behind an optional minus sign: no exponent, no needless zero in
front and none at the end (`PlainNumeral`). The numeral is that of the rounded number, so it is read
back as this number and tells it from all others (`canonical_plain_notation`). The sign is that of
the number before it was rounded (`canonical_eq`): a number below zero that is rounded to zero is
written as `-0` (`canonical_minus_zero`).
-/

namespace EventLedger.Decimal

open Text

/-- What stands in front of a point: a zero, or digits that do not begin with one. -/
inductive WholePart : List Char → Prop
  | zero : WholePart ['0']
  | digits {d : Char} {ds : List Char} (all : ∀ x ∈ d :: ds, x.isDigit = true) (front : d ≠ '0') :
    WholePart (d :: ds)

/-- What stands behind a point: digits that do not end with a zero. -/
inductive FractionPart : List Char → Prop
  | digits {ds : List Char} {d : Char} (all : ∀ x ∈ ds ++ [d], x.isDigit = true) (back : d ≠ '0') :
    FractionPart (ds ++ [d])

/-- A number that is not negative, without an exponent and without needless zeros. -/
inductive PlainNumeral : List Char → Prop
  | whole {ds : List Char} (whole : WholePart ds) : PlainNumeral ds
  | point {ds fs : List Char} (whole : WholePart ds) (fraction : FractionPart fs) :
    PlainNumeral (ds ++ '.' :: fs)

theorem WholePart.begins {ds : List Char} (h : WholePart ds) :
    ∃ d rest, ds = d :: rest ∧ d.isDigit = true := by
  cases h with
  | zero => exact ⟨_, _, rfl, rfl⟩
  | digits all => exact ⟨_, _, rfl, all _ List.mem_cons_self⟩

theorem PlainNumeral.begins {cs : List Char} (h : PlainNumeral cs) :
    ∃ d rest, cs = d :: rest ∧ d.isDigit = true := by
  cases h with
  | whole whole => exact whole.begins
  | point whole =>
    obtain ⟨d, rest, rfl, digit⟩ := whole.begins
    exact ⟨d, _, rfl, digit⟩

/-- A numeral has no sign, so what stands in front of it can be told. -/
theorem signChars_append_inj {n m : Bool} {cs ds : List Char} (left : PlainNumeral cs)
    (right : PlainNumeral ds) (same : signChars n ++ cs = signChars m ++ ds) : n = m ∧ cs = ds := by
  obtain ⟨c, cs, rfl, digit⟩ := left.begins
  obtain ⟨d, ds, rfl, digit'⟩ := right.begins
  cases n <;> cases m
  · exact ⟨rfl, same⟩
  · exact absurd same (digit_cons_ne digit rfl _ _)
  · exact absurd same.symm (digit_cons_ne digit' rfl _ _)
  · exact ⟨rfl, (List.cons_eq_cons.1 same).2⟩

section

variable {c : Nat} (last : c % 10 ≠ 0)
include last

/-- Such a number has no zero in front either. -/
theorem exists_digits_front :
    ∃ d ds, natChars c = d :: ds ∧ d ≠ '0' := by
  rcases natChars_cases c with ⟨rfl, -⟩ | front
  · exact absurd rfl last
  · exact front

theorem wholePart_append {cs : List Char} (all : ∀ x ∈ natChars c ++ cs, x.isDigit = true) :
    WholePart (natChars c ++ cs) := by
  obtain ⟨d, ds, eq, front⟩ := exists_digits_front last
  rw [eq] at all ⊢
  exact .digits all front

section

variable {k : Nat} {whole fraction : List Char}
  (parts : whole ++ fraction = List.replicate k '0' ++ natChars c)
include parts

/-- If zeros were put in front of the digits, then only one of them stands before the point. -/
theorem wholePart_of_parts (ne : whole ≠ []) (short : k = 0 ∨ whole.length = 1) :
    WholePart whole := by
  have all : ∀ d ∈ whole, d.isDigit = true := fun d mem =>
    isDigit_of_mem_padded d (parts ▸ List.mem_append_left _ mem)
  obtain ⟨w, ws, rfl⟩ := List.exists_cons_of_ne_nil ne
  rcases short with rfl | one
  · obtain ⟨d, ds, eq, front⟩ := exists_digits_front last
    rw [eq] at parts
    obtain ⟨rfl, -⟩ := List.cons_eq_cons.1 parts
    exact .digits all front
  · obtain rfl := List.length_eq_zero_iff.1 (Nat.succ.inj one)
    by_cases zero : w = '0'
    · rw [zero]
      exact .zero
    · exact .digits all zero

/-- What stands behind the point ends with the last digit. -/
theorem fractionPart_of_parts (ne : fraction ≠ []) : FractionPart fraction := by
  have all : ∀ d ∈ fraction, d.isDigit = true := fun d mem =>
    isDigit_of_mem_padded d (parts ▸ List.mem_append_right _ mem)
  obtain ⟨ds, eq⟩ := exists_natChars_concat c
  rcases List.eq_nil_or_concat fraction with empty | ⟨fs, x, rfl⟩
  · exact absurd empty ne
  · rw [List.concat_eq_append] at *
    rw [eq, ← List.append_assoc, ← List.append_assoc] at parts
    obtain ⟨-, back⟩ := List.append_inj' parts rfl
    cases back
    exact .digits all (digitChar_ne_zero (Nat.mod_lt _ (by decide)) last)

end

theorem plainNumeral_insertPoint (places : Nat) :
    PlainNumeral (insertPoint (natChars c) places) := by
  rcases eq_or_ne places 0 with rfl | pos
  · have front : WholePart (natChars c ++ []) :=
      wholePart_append last fun d mem => isDigit_of_mem_natChars (by rwa [List.append_nil] at mem)
    rw [List.append_nil] at front
    rw [insertPoint, if_pos rfl]
    exact .whole front
  rcases insertPoint_cases (natChars c) places (natChars_ne_nil c) with
    ⟨zero, -⟩ | ⟨k, whole, fraction, point, ne, length, parts, short⟩
  · exact absurd zero pos
  have places_ne : fraction ≠ [] := by
    rintro rfl
    exact pos length.symm
  rw [point]
  exact .point (wholePart_of_parts last parts ne short) (fractionPart_of_parts last parts places_ne)

/-- A number that is not zero at its end is written as a numeral. -/
theorem plainNumeral_plainChars (e : Int) : PlainNumeral (plainChars (.finite false c e)) := by
  show PlainNumeral (if e ≤ 0 then insertPoint (natChars c) e.natAbs
    else natChars c ++ List.replicate e.toNat '0')
  split
  next => exact plainNumeral_insertPoint last _
  next =>
    refine .whole (wholePart_append last (List.forall_mem_append.2 ⟨?_, ?_⟩))
    · exact fun d mem => isDigit_of_mem_natChars mem
    · exact fun d mem => isDigit_of_mem_zeros mem

end

theorem plainChars_zero : plainChars (.finite false 0 0) = ['0'] := by
  rw [plainChars, if_pos le_rfl, natChars_zero]
  rfl

/-- The shortest form of every number is written as a numeral. -/
theorem plainNumeral_shortest (c : Nat) (e : Int) :
    PlainNumeral (finite false c e).shortest.plainChars := by
  rw [shortest]
  split
  next => exact plainChars_zero ▸ .whole .zero
  next ne => exact plainNumeral_plainChars (stripZeros_spec ne e).2.1 _

/-- Only zero has the numeral of zero. -/
theorem plainChars_shortest_eq_zero {c : Nat} {e : Int} :
    (finite false c e).shortest.plainChars = ['0'] ↔ c = 0 := by
  constructor
  · intro text
    by_contra ne
    rw [shortest, if_neg ne] at text
    obtain ⟨-, last, -, -⟩ := stripZeros_spec ne e
    generalize (stripZeros c e).1 = d at last text
    generalize (stripZeros c e).2 = f at text
    have reads := (readsAs_plain d f).parts
    have written : (if f ≤ 0 then insertPoint (natChars d) f.natAbs
        else natChars d ++ List.replicate f.toNat '0') = ['0'] := text
    rw [written] at reads
    have zero : readParts? ['0'] = some (0, 0) := by decide
    have parts := Option.some.inj (zero.symm.trans reads)
    split at parts
    · obtain ⟨rfl, -⟩ := Prod.mk.inj parts
      exact last rfl
    · have product := (Prod.mk.inj parts).1
      rcases Nat.mul_eq_zero.1 product.symm with rfl | power
      · exact last rfl
      · exact absurd power (by positivity)
  · rintro rfl
    rw [shortest, if_pos rfl, plainChars_zero]

/-! ## Canonical texts -/

theorem magnitude_congr {n m : Bool} {c d : Nat} {e f : Int}
    (same : (finite n c e).value = (finite m d f).value) : magnitude c e = magnitude d f := by
  have sizes := congrArg abs same
  rwa [value_finite, value_finite, abs_withSign_magnitude, abs_withSign_magnitude] at sizes

/-- The canonical text is the numeral of the rounded number, behind the sign of the number that was
rounded. -/
theorem canonical_eq {n m : Bool} {c d : Nat} {e f : Int}
    (rounds : round (.finite n c e) = .ok (.finite m d f)) :
    (finite n c e).canonical = .ok (String.ofList
      (signChars (decide ((finite n c e).value < 0)) ++ (finite false d f).shortest.plainChars)) := by
  obtain rfl := roundFinite_sign rounds
  rw [canonical, equals_of_isFinite rfl rfl, value_zero, value_finite]
  rcases eq_or_ne c 0 with rfl | ne
  · -- A zero is not rounded; it has no sign whatever was written.
    cases rounds
    rw [magnitude_zero, withSign_zero, decide_eq_true rfl, decide_eq_false (lt_irrefl _),
      plainChars_shortest_eq_zero.2 rfl]
    rfl
  · have nonzero : withSign m (magnitude c e) ≠ 0 := fun zero =>
      ne (withSign_magnitude_eq_zero.1 zero)
    have written : (finite m d f).shortest.plainChars =
        signChars m ++ (finite false d f).shortest.plainChars := by
      rw [shortest, shortest]
      split <;> rfl
    rw [decide_eq_false nonzero, decide_withSign_neg m (magnitude_pos ne e), normalize_eq, rounds,
      ← written]
    rfl

section

variable {v w r s : Decimal} (finite : v.isFinite = true) (rounds : v.round = .ok r)
include finite rounds

/-- What is rounded without an overflow is a decimal of the rounded number. -/
theorem value_of_round : r.isFinite = true ∧ r.value = rounded v.value := by
  have result := round_rounds finite
  rw [rounds] at result
  cases result with
  | number value => exact ⟨rfl, value⟩

/-- Two canonical texts are the same iff the rounded numbers are the same and both numbers, or
neither, are below zero. -/
theorem canonical_eq_iff (finite' : w.isFinite = true) (rounds' : w.round = .ok s) :
    v.canonical = w.canonical ↔ r.value = s.value ∧ (v.value < 0 ↔ w.value < 0) := by
  obtain ⟨rfinite, value⟩ := value_of_round finite rounds
  obtain ⟨sfinite, value'⟩ := value_of_round finite' rounds'
  obtain ⟨t, text⟩ := canonical_of_round finite rounds
  obtain ⟨t', text'⟩ := canonical_of_round finite' rounds'
  obtain ⟨n, c, e⟩ | _ | _ := v <;> cases finite
  obtain ⟨m, d, f⟩ | _ | _ := w <;> cases finite'
  obtain ⟨n', c', e'⟩ | _ | _ := r <;> cases rfinite
  obtain ⟨m', d', f'⟩ | _ | _ := s <;> cases sfinite
  constructor
  · intro same
    obtain ⟨b, read, -, number⟩ := parse_canonical rfl text
    obtain ⟨b', read', -, number'⟩ := parse_canonical rfl (same ▸ text)
    obtain rfl := Except.ok.inj (read.symm.trans read')
    rw [canonical_eq rounds, canonical_eq rounds'] at same
    obtain ⟨sign, -⟩ := signChars_append_inj (plainNumeral_shortest _ _) (plainNumeral_shortest _ _)
      (String.ofList_inj.1 (Except.ok.inj same))
    exact ⟨value.trans (number.symm.trans (number'.trans value'.symm)), decide_eq_decide.1 sign⟩
  · rintro ⟨same, sides⟩
    rw [canonical_eq rounds, canonical_eq rounds', decide_eq_decide.2 sides,
      shortest_congr false (magnitude_congr same)]

/-- The canonical text of a number whose rounding does not overflow is a plain numeral, `0` if it is
rounded to zero, behind a minus sign iff it is below zero. It is read as the rounded number. Two such
numbers have one text iff they are rounded to one number and it is not that one of them is below
zero and the other is not, as can be where both are rounded to zero. -/
theorem canonical_plain_notation :
    r.value = rounded v.value ∧
    ∃ n cs b, v.canonical = .ok (String.ofList (signChars n ++ cs)) ∧ PlainNumeral cs ∧
      (n = true ↔ v.value < 0) ∧ (cs = ['0'] ↔ r.value = 0) ∧
      parse (String.ofList (signChars n ++ cs)) = .ok b ∧ b.equals r = .ok true ∧
      ∀ w s : Decimal, w.isFinite = true → w.round = .ok s →
        (v.canonical = w.canonical ↔
          r.equals s = .ok true ∧ (v.value < 0 ↔ w.value < 0)) := by
  obtain ⟨rfinite, value⟩ := value_of_round finite rounds
  refine ⟨value, ?_⟩
  have texts := fun w s => @canonical_eq_iff v w r s finite rounds
  obtain ⟨n, c, e⟩ | _ | _ := v <;> cases finite
  obtain ⟨m, d, f⟩ | _ | _ := r <;> cases rfinite
  have text := canonical_eq rounds
  obtain ⟨b, read, bfinite, number⟩ := parse_canonical rfl text
  refine ⟨_, _, b, text, plainNumeral_shortest d f, decide_eq_true_iff, ?_, read, ?_, ?_⟩
  · rw [plainChars_shortest_eq_zero, value_finite, withSign_magnitude_eq_zero]
  · rw [equals_of_isFinite bfinite rfl, decide_eq_true (number.trans value.symm)]
  · intro w s finite' rounds'
    obtain ⟨sfinite, -⟩ := value_of_round finite' rounds'
    rw [texts w s finite' rounds', equals_of_isFinite rfl sfinite, Except.ok.injEq,
      decide_eq_true_iff]

end

/-- `canonical_plain_notation` for 29 nines behind the point, which are rounded to one. -/
theorem canonical_plain_notation_carried :
    let v : Decimal := .finite false 99999999999999999999999999999 (-29)
    let r : Decimal := .finite false 1000000000000000000000000000 (-27)
    v.isFinite = true ∧ v.round = .ok r ∧ r.value = rounded v.value ∧
      ∃ n cs b, v.canonical = .ok (String.ofList (signChars n ++ cs)) ∧ PlainNumeral cs ∧
        (n = true ↔ v.value < 0) ∧ (cs = ['0'] ↔ r.value = 0) ∧
        parse (String.ofList (signChars n ++ cs)) = .ok b ∧ b.equals r = .ok true ∧
        v.canonical = (ofNat 1).canonical := by
  intro v r
  have rounds : v.round = .ok r := by decide +kernel
  have one : (ofNat 1).round = .ok (ofNat 1) := by decide +kernel
  obtain ⟨value, n, cs, b, text, numeral, sign, zero, read, number, texts⟩ :=
    canonical_plain_notation rfl rounds
  have positive : ∀ c e, ¬ (finite false c e).value < 0 := fun c e => (magnitude_nonneg c e).not_gt
  have same : v.canonical = (ofNat 1).canonical :=
    (texts _ _ rfl one).2 ⟨by decide +kernel, iff_of_false (positive _ _) (positive _ _)⟩
  exact ⟨rfl, rounds, value, n, cs, b, text, numeral, sign, zero, read, number, same⟩

/-- The tenth part of the least unit, below zero, is rounded to zero, and has another text than
zero. -/
theorem canonical_minus_zero :
    let v : Decimal := .finite true 1 (-1000027)
    let r : Decimal := .finite true 0 (-1000026)
    v.isFinite = true ∧ v.round = .ok r ∧ v.canonical = .ok "-0" ∧
      zero.round = .ok zero ∧ zero.canonical = .ok "0" ∧ r.equals zero = .ok true := by
  decide +kernel

end EventLedger.Decimal
