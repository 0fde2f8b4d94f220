import EventLedger.Proofs.DoubleText
import EventLedger.Proofs.ShortestDouble

/-!
# Reading doubles

What a double is written with denotes its shortest decimal (`denotes_pointChars`,
`denotes_exponentChars`), so that a document gives every double of the format back (`reads_double`).
Any other one is still read as some double (`exists_reads_double`).
-/

namespace EventLedger.Double

open Text Json
open Decimal (magnitude adjusted signed signChars)

/-- Digits that may stand in front of a point: a zero alone, or digits that do not begin with one.
-/
inductive IsWhole : List Char → Prop
  | zero : IsWhole ['0']
  | digits {d : Char} {ds : List Char} (ne : d ≠ '0') (all : ∀ c ∈ d :: ds, c.isDigit = true) :
    IsWhole (d :: ds)

/-- A number with a fraction or an exponent behind its digits. -/
theorem readUnsigned_whole (negative : Bool) {whole places : List Char}
    {tail behind rest : List Point} {exponent : Option Int} (h : IsWhole whole)
    (stop : NoDigit tail)
    (fraction : splitFraction tail = (places, behind))
    (power : splitExponent behind = (exponent, rest))
    (marked : (places.isEmpty && exponent.isNone) = false) :
    readUnsigned negative (Text.chars whole ++ tail) =
      some (.double (ofDecimal negative (ofChars (whole ++ places))
        (exponent.getD 0 - places.length)), rest) := by
  cases h with
  | zero => simp [readUnsigned, fraction, power, marked]
  | @digits d ds ne all =>
    rw [readUnsigned, splitDigits_append all stop]
    · simp [fraction, power, marked]
    · intro rest' eq
      exact ne (Point.char.inj (List.cons_eq_cons.1 eq).1)

theorem splitFraction_point {places : List Char} (ne : places ≠ [])
    (digits : ∀ c ∈ places, c.isDigit = true) {rest : List Point} (stop : NoDigit rest) :
    splitFraction (.char '.' :: (Text.chars places ++ rest)) = (places, rest) := by
  obtain ⟨c, cs, rfl⟩ := List.exists_cons_of_ne_nil ne
  rw [splitFraction, splitDigits_append digits stop]

theorem splitExponent_e (negative : Bool) {ds : List Char} (ne : ds ≠ [])
    (digits : ∀ c ∈ ds, c.isDigit = true) {rest : List Point} (stop : NoDigit rest) :
    splitExponent (.char 'e' :: .char (if negative then '-' else '+') :: (Text.chars ds ++ rest)) =
      (some (signed negative (ofChars ds)), rest) := by
  have sign : splitSign (.char (if negative then '-' else '+') :: (Text.chars ds ++ rest)) =
      (negative, Text.chars ds ++ rest) := by
    cases negative <;> rfl
  obtain ⟨c, cs, rfl⟩ := List.exists_cons_of_ne_nil ne
  simp only [splitExponent, sign, splitDigits_append digits stop]
  rfl

/-- The characters, with a sign or without, are read as the double nearest to a number. -/
def Denotes (cs : List Char) (q : ℚ) : Prop :=
  ∃ c k, magnitude c k = q ∧ ∀ negative rest, Ends rest →
    readUnsigned negative (Text.chars cs ++ rest) = some (.double (ofDecimal negative c k), rest)

theorem denotes_point {whole places : List Char} (h : IsWhole whole) (ne : places ≠ [])
    (digits : ∀ c ∈ places, c.isDigit = true) :
    Denotes (whole ++ '.' :: places) (magnitude (ofChars (whole ++ places)) (-places.length)) := by
  refine ⟨_, _, rfl, fun negative rest ends => ?_⟩
  have fraction := splitFraction_point ne digits ends.noDigit
  have read := readUnsigned_whole negative h (by rintro c ⟨⟩; rfl) fraction ends.split.2
    (by simp [ne])
  rw [chars_append, chars_cons, List.append_assoc, List.cons_append, read]
  simp

theorem denotes_zero : Denotes ['0', '.', '0'] 0 := by
  have reads := denotes_point .zero (List.cons_ne_nil '0' []) (List.forall_mem_singleton.2 rfl)
  rwa [show ofChars (['0'] ++ ['0']) = 0 from rfl, Decimal.magnitude_zero] at reads

/-- Digits with a point put among them, which may take zeros in front. -/
theorem denotes_insertPoint {c : Nat} (ne : c ≠ 0) {n : Nat} (pos : 0 < n) :
    Denotes (Decimal.insertPoint (natChars c) n) (magnitude c (-n)) := by
  have digits : ∀ d ∈ natChars c, d.isDigit = true := fun d mem => isDigit_of_mem_natChars mem
  obtain ⟨d, ds, number, first⟩ := (natChars_cases c).resolve_left fun h => ne h.1
  rcases Decimal.insertPoint_cases (natChars c) n (natChars_ne_nil c) with
    ⟨zero, -⟩ | ⟨k, whole, places, point, whole_ne, length, all, short⟩
  · omega
  have all_digits : ∀ d ∈ whole ++ places, d.isDigit = true := by
    rw [all, List.forall_mem_append]
    exact ⟨fun d => Decimal.isDigit_of_mem_zeros, digits⟩
  rw [List.forall_mem_append] at all_digits
  obtain ⟨w, ws, rfl⟩ := List.exists_cons_of_ne_nil whole_ne
  -- Zeros are put in front only if they leave no more than one digit before the point.
  have isWhole : IsWhole (w :: ws) := by
    cases k with
    | zero =>
      rw [List.replicate_zero, List.nil_append, number, List.cons_append] at all
      exact .digits ((List.cons_eq_cons.1 all).1 ▸ first) all_digits.1
    | succ k =>
      rw [List.replicate_succ, List.cons_append, List.cons_append] at all
      have single := short.resolve_left (Nat.succ_ne_zero k)
      rw [(List.cons_eq_cons.1 all).1, List.length_eq_zero_iff.1 (Nat.succ.inj single)]
      exact .zero
  have places_ne : places ≠ [] := List.ne_nil_of_length_pos (by omega)
  have denotes := denotes_point isWhole places_ne all_digits.2
  rw [all, ofChars_zeros_append, ofChars_natChars, length] at denotes
  rw [point]
  exact denotes

/-- Digits with zeros behind them, and a point with one more zero. -/
theorem denotes_zeros {c : Nat} (ne : c ≠ 0) (n : Nat) :
    Denotes (natChars c ++ List.replicate n '0' ++ ['.', '0']) (magnitude c n) := by
  have digits : ∀ d ∈ natChars c, d.isDigit = true := fun d mem => isDigit_of_mem_natChars mem
  obtain ⟨d, ds, number, first⟩ := (natChars_cases c).resolve_left fun h => ne h.1
  have zeros : ∀ d ∈ List.replicate n '0', d.isDigit = true :=
    fun d => Decimal.isDigit_of_mem_zeros
  have isWhole : IsWhole (natChars c ++ List.replicate n '0') := by
    rw [number] at digits ⊢
    exact .digits first (List.forall_mem_append.2 ⟨digits, zeros⟩)
  have denotes := denotes_point isWhole (List.cons_ne_nil '0' [])
    (List.forall_mem_singleton.2 rfl)
  have value : ofChars (natChars c ++ List.replicate n '0' ++ ['0']) = c * 10 ^ (n + 1) := by
    have more := ofChars_append_zeros (natChars c) (n + 1)
    rwa [List.replicate_succ', ← List.append_assoc, ofChars_natChars] at more
  have same : magnitude (c * 10 ^ (n + 1)) (-1) = magnitude c n := by
    rw [Decimal.magnitude_mul_pow]
    congr 1
    push_cast
    omega
  rw [value, List.length_singleton] at denotes
  rw [← same]
  exact denotes

theorem denotes_pointChars {c : Nat} (ne : c ≠ 0) (e : Int) :
    Denotes (pointChars c e) (magnitude c e) := by
  unfold pointChars
  split
  next below =>
    have denotes := denotes_insertPoint ne (show 0 < e.natAbs by omega)
    rwa [show -(e.natAbs : Int) = e by omega] at denotes
  next above =>
    have denotes := denotes_zeros ne e.toNat
    rwa [Int.toNat_of_nonneg (by omega)] at denotes

/-- Behind the letter the exponent is written with its sign. -/
theorem exists_exponentChars (c : Nat) (top : Int) :
    ∃ es, (∀ d, natChars c = [d] → exponentChars c top = d :: 'e' :: es) ∧
      (∀ d d' ds, natChars c = d :: d' :: ds →
        exponentChars c top = d :: '.' :: (d' :: ds ++ 'e' :: es)) ∧
      ∀ rest, Ends rest →
        splitExponent (.char 'e' :: (Text.chars es ++ rest)) = (some top, rest) := by
  refine ⟨(if top < 0 then '-' else '+') :: (List.replicate (2 - (natChars top.natAbs).length) '0' ++
    natChars top.natAbs), fun d number => ?_, fun d d' ds number => ?_, fun rest ends => ?_⟩
  · rw [exponentChars, number]; rfl
  · rw [exponentChars, number]; simp
  have digits : ∀ d ∈ List.replicate (2 - (natChars top.natAbs).length) '0' ++
      natChars top.natAbs, d.isDigit = true :=
    List.forall_mem_append.2
      ⟨fun d => Decimal.isDigit_of_mem_zeros, fun d mem => isDigit_of_mem_natChars mem⟩
  have power := splitExponent_e (decide (top < 0))
    (List.append_ne_nil_of_right_ne_nil _ (natChars_ne_nil top.natAbs)) digits ends.noDigit
  have same : signed (decide (top < 0)) top.natAbs = top := by
    by_cases negative : top < 0
    · rw [decide_eq_true negative, signed, if_pos rfl]
      omega
    · rw [decide_eq_false negative, signed, if_neg (by decide)]
      omega
  rw [ofChars_zeros_append, ofChars_natChars, same] at power
  simpa only [decide_eq_true_eq, chars_cons, List.cons_append] using power

theorem denotes_exponentChars (c : Nat) (e : Int) :
    Denotes (exponentChars c (adjusted c e)) (magnitude c e) := by
  have digits : ∀ d ∈ natChars c, d.isDigit = true := fun d mem => isDigit_of_mem_natChars mem
  have count : (natChars c).length = digitCount c := by
    rw [natChars, List.length_map, length_digits]
  have value := ofChars_natChars c
  obtain ⟨d, ds, number⟩ := List.exists_cons_of_ne_nil (natChars_ne_nil c)
  have isWhole : IsWhole [d] := by
    rcases natChars_cases c with ⟨-, zero⟩ | ⟨d', ds', number', ne⟩
    · cases number.symm.trans zero; exact .zero
    · cases number.symm.trans number'
      exact .digits ne (List.forall_mem_singleton.2 (digits d (number ▸ List.mem_cons_self)))
  rw [number] at digits count value
  rw [List.forall_mem_cons] at digits
  rw [List.length_cons] at count
  -- The digits behind the point are as many as the exponent of the last digit is below the first.
  have last : adjusted c e - ds.length = e := by
    rw [adjusted, ← count]
    push_cast
    omega
  obtain ⟨es, single, several, power⟩ := exists_exponentChars c (adjusted c e)
  refine ⟨c, e, rfl, fun negative rest ends => ?_⟩
  cases ds with
  | nil =>
    rw [single d number]
    have none : splitFraction (.char 'e' :: (Text.chars es ++ rest)) =
        ([], .char 'e' :: (Text.chars es ++ rest)) := rfl
    have read := readUnsigned_whole negative isWhole (by rintro c ⟨⟩; rfl) none (power rest ends) rfl
    rw [List.append_nil, value, Option.getD_some, last] at read
    exact read
  | cons d' ds =>
    rw [several d d' ds number]
    have fraction : splitFraction
        (.char '.' :: (Text.chars (d' :: ds) ++ .char 'e' :: (Text.chars es ++ rest))) = _ :=
      splitFraction_point (List.cons_ne_nil d' ds) digits.2 (by rintro c ⟨⟩; rfl)
    have read := readUnsigned_whole negative isWhole (by rintro c ⟨⟩; rfl) fraction
      (power rest ends) rfl
    rw [List.singleton_append, value, Option.getD_some, last] at read
    rw [← read]
    simp

/-! ## Doubles -/

theorem reads_denoted {cs : List Char} {q : ℚ} (fractional : Fractional cs) (h : Denotes cs q) :
    ∃ c k, magnitude c k = q ∧
      ∀ negative,
        Reads (Text.chars (signChars negative ++ cs)) (.double (ofDecimal negative c k)) := by
  obtain ⟨c, k, value, reads⟩ := h
  obtain ⟨d, ds, rfl, digit⟩ := fractional.begins
  have printable : ∀ c ∈ d :: ds, 0x20 ≤ c.toNat := by
    intro c mem
    rcases fractional.numeric c mem with digit | rfl | rfl | rfl | rfl
    · exact printable_of_isDigit digit
    all_goals decide
  refine ⟨c, k, value, fun negative => ?_⟩
  cases negative with
  | false =>
    refine reads_number (.inr digit) printable fun rest ends => ?_
    exact (readNumber_digit digit (Text.chars ds ++ rest)).trans (reads false rest ends)
  | true =>
    refine reads_number (.inl rfl) (List.forall_mem_cons.2 ⟨by decide, printable⟩) fun rest ends => ?_
    exact (readNumber_minus digit (Text.chars ds ++ rest)).trans (reads true rest ends)

theorem reads_nan : Reads (Text.chars (chars .document .nan)) (.double .nan) where
  begins := ⟨_, _, rfl, rfl, by decide⟩
  printable := by simp [chars, Spelling.document]
  reads _ _ _ _ := rfl

theorem reads_infinite (negative : Bool) :
    Reads (Text.chars (chars .document (.infinite negative))) (.double (.infinite negative)) := by
  cases negative with
  | false =>
    exact ⟨⟨_, _, rfl, rfl, by decide⟩, by simp [chars, Spelling.document, signChars],
      fun _ _ _ _ => rfl⟩
  | true =>
    exact ⟨⟨_, _, rfl, rfl, by decide⟩, by simp [chars, Spelling.document, signChars],
      fun _ _ _ _ => rfl⟩

/-- What a finite double is written with is read as a decimal with the value of its shortest one. -/
theorem reads_finite (negative : Bool) (m : Nat) (e : Int) :
    ∃ c k, magnitude c k = (if m = 0 then 0 else magnitude (shortest m e).1 (shortest m e).2) ∧
      Reads (Text.chars (chars .document (.finite negative m e)))
        (.double (ofDecimal negative c k)) := by
  have denotes : ∃ cs, Fractional cs ∧
      chars .document (.finite negative m e) = signChars negative ++ cs ∧
      Denotes cs (if m = 0 then 0 else magnitude (shortest m e).1 (shortest m e).2) := by
    by_cases zero : m = 0
    · rw [if_pos zero]
      exact ⟨_, fractional_zero, by rw [chars, if_pos zero], denotes_zero⟩
    · rw [if_neg zero, chars, if_neg zero]
      dsimp only
      split
      · exact ⟨_, fractional_pointChars .., rfl, denotes_pointChars (shortest_ne_zero zero e) _⟩
      · exact ⟨_, fractional_exponentChars .., rfl, denotes_exponentChars ..⟩
  obtain ⟨cs, fractional, text, denotes⟩ := denotes
  obtain ⟨c, k, value, reads⟩ := reads_denoted fractional denotes
  exact ⟨c, k, value, text ▸ reads negative⟩

/-- Every double is written so that it can be read. -/
theorem exists_reads_double (d : Double) :
    ∃ d' : Double, Reads (Text.chars (d.chars .document)) (.double d') := by
  cases d with
  | nan => exact ⟨_, reads_nan⟩
  | infinite negative => exact ⟨_, reads_infinite negative⟩
  | finite negative m e =>
    obtain ⟨c, k, -, reads⟩ := reads_finite negative m e
    exact ⟨_, reads⟩

/-- A double of the format is read back. -/
theorem reads_double {d : Double} (h : Valid d) :
    Reads (Text.chars (d.chars .document)) (.double d) := by
  cases h with
  | nan => exact reads_nan
  | infinite negative => exact reads_infinite negative
  | zero negative =>
    obtain ⟨c, k, value, reads⟩ := reads_finite negative 0 minUnit
    rw [if_pos rfl, Decimal.magnitude_eq_zero] at value
    rw [ofDecimal, if_pos value] at reads
    exact reads
  | @finite negative m e normal =>
    obtain ⟨c, k, value, reads⟩ := reads_finite negative m e
    rw [if_neg normal.pos] at value
    have attracts := attracts_shortest normal
    rw [← value] at attracts
    rw [ofDecimal_of_attracts negative normal attracts] at reads
    exact reads

end EventLedger.Double
