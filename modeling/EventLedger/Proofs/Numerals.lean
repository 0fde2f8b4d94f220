import Mathlib.Algebra.Ring.Nat
import Mathlib.Data.List.Basic
import EventLedger.Text.Numeral

/-!
# Numerals

What `natChars` writes consists of digits, has no needless zero in front, and is read back by
`ofChars` to the number that was written (`ofChars_natChars`). Zeros in front of a numeral do not
count, and zeros behind it count as powers of ten.
-/

namespace EventLedger.Text

theorem toNat_digitChar {d : Nat} (h : d < 10) : (digitChar d).toNat = 48 + d := by
  revert d
  decide

theorem isDigit_iff {c : Char} : c.isDigit = true ↔ 48 ≤ c.toNat ∧ c.toNat ≤ 57 :=
  Char.isDigit_iff_toNat

theorem digit_cons_ne {d c : Char} (digit : d.isDigit = true) (other : c.isDigit = false)
    (ds cs : List Char) : d :: ds ≠ c :: cs := by
  intro eq
  rw [(List.cons_eq_cons.1 eq).1, other] at digit
  cases digit

theorem isDigit_digitChar {d : Nat} (h : d < 10) : (digitChar d).isDigit = true := by
  rw [isDigit_iff, toNat_digitChar h]
  omega

theorem digitChar_ne_zero {d : Nat} (small : d < 10) (ne : d ≠ 0) : digitChar d ≠ '0' := by
  intro zero
  have number := toNat_digitChar small
  rw [zero] at number
  change 48 = 48 + d at number
  omega

theorem asciiDigit?_of_isDigit {c : Char} (h : c.isDigit = true) :
    asciiDigit? c = some (c.toNat - 48) := by
  obtain ⟨low, high⟩ := isDigit_iff.1 h
  exact if_pos ⟨Char.le_def.2 (UInt32.le_iff_toNat_le.2 low),
    Char.le_def.2 (UInt32.le_iff_toNat_le.2 high)⟩

theorem digitChar_of_isDigit {c : Char} (h : c.isDigit = true) : digitChar (c.toNat - 48) = c := by
  obtain ⟨low, -⟩ := isDigit_iff.1 h
  rw [digitChar, Nat.add_sub_cancel' low, Char.ofNat_toNat]

/-- Digits in front are told apart from what follows them. -/
theorem takeWhile_isDigit {ds : List Char} (digits : ∀ d ∈ ds, d.isDigit = true) (rest : List Char)
    (stop : ∀ c ∈ rest.head?, c.isDigit = false) :
    (ds ++ rest).takeWhile Char.isDigit = ds ∧ (ds ++ rest).dropWhile Char.isDigit = rest := by
  rw [List.takeWhile_append_of_pos digits, List.dropWhile_append_of_pos digits]
  cases rest with
  | nil => exact ⟨List.append_nil ds, rfl⟩
  | cons c rest =>
    have nondigit := stop c rfl
    rw [List.takeWhile_cons_of_neg (by simp [nondigit]),
      List.dropWhile_cons_of_neg (by simp [nondigit])]
    exact ⟨List.append_nil ds, rfl⟩

theorem isDigit_of_mem_natChars {n : Nat} {c : Char} (h : c ∈ natChars n) : c.isDigit = true := by
  obtain ⟨d, mem, rfl⟩ := List.mem_map.1 h
  exact isDigit_digitChar (digits_lt mem)

theorem natChars_ne_nil (n : Nat) : natChars n ≠ [] := by
  rw [natChars, digits]
  split <;> simp

/-- Only zero has a zero in front. -/
theorem head?_digits {n : Nat} (h : n ≠ 0) : (digits n).head? ≠ some 0 := by
  induction n using digits.induct with
  | case1 n small => rw [digits, if_pos small]; simpa using h
  | case2 n large ih =>
    rw [digits, if_neg large, List.head?_append]
    have front := ih (by omega)
    cases head : (digits (n / 10)).head? with
    | none =>
      have empty := congrArg List.length (List.head?_eq_none_iff.1 head)
      rw [digits] at empty
      split at empty <;> simp at empty
    | some d =>
      rw [head] at front
      simpa using front

theorem natChars_zero : natChars 0 = ['0'] := by
  rw [natChars, digits]
  rfl

/-- Only zero is written with a zero in front. -/
theorem natChars_cases (n : Nat) :
    n = 0 ∧ natChars n = ['0'] ∨ ∃ d ds, natChars n = d :: ds ∧ d ≠ '0' := by
  rcases Nat.eq_zero_or_pos n with rfl | pos
  · exact .inl ⟨rfl, natChars_zero⟩
  · have front := head?_digits (Nat.pos_iff_ne_zero.1 pos)
    have small : ∀ d ∈ digits n, d < 10 := fun d mem => digits_lt mem
    rw [natChars]
    cases ds : digits n with
    | nil =>
      have none := natChars_ne_nil n
      rw [natChars, ds] at none
      exact absurd rfl none
    | cons d ds' =>
      rw [ds] at front small
      have ne : d ≠ 0 := by
        rintro rfl
        exact front rfl
      exact .inr ⟨_, _, rfl, digitChar_ne_zero (small d List.mem_cons_self) ne⟩

/-- What is written ends with the last digit. -/
theorem exists_natChars_concat (n : Nat) : ∃ ds, natChars n = ds ++ [digitChar (n % 10)] := by
  rw [natChars, digits]
  split
  next small => exact ⟨[], by rw [Nat.mod_eq_of_lt small]; rfl⟩
  next => exact ⟨(digits (n / 10)).map digitChar, List.map_append ..⟩

theorem ofChars_map_digitChar {ds : List Nat} (h : ∀ d ∈ ds, d < 10) :
    ofChars (ds.map digitChar) = ofDigits ds := by
  rw [ofChars, List.map_map]
  refine congrArg ofDigits ((List.map_congr_left fun d mem => ?_).trans (List.map_id ds))
  rw [Function.comp_apply, asciiDigit?_of_isDigit (isDigit_digitChar (h d mem)),
    toNat_digitChar (h d mem)]
  simp

/-- Reading takes back what was written. -/
theorem ofChars_natChars (n : Nat) : ofChars (natChars n) = n := by
  rw [natChars, ofChars_map_digitChar fun d mem => digits_lt mem, ofDigits_digits]

theorem ofChars_zeros_append (k : Nat) (cs : List Char) :
    ofChars (List.replicate k '0' ++ cs) = ofChars cs := by
  induction k with
  | zero => rfl
  | succ k ih => rw [List.replicate_succ, List.cons_append, ← ih]; rfl

theorem ofChars_append_zeros (cs : List Char) (k : Nat) :
    ofChars (cs ++ List.replicate k '0') = ofChars cs * 10 ^ k := by
  induction k with
  | zero => rw [List.replicate_zero, List.append_nil, Nat.pow_zero, Nat.mul_one]
  | succ k ih =>
    rw [List.replicate_succ', ← List.append_assoc, ofChars, List.map_append, List.map_singleton,
      ofDigits_append_singleton, ← ofChars, ih, Nat.pow_succ]
    show 10 * (ofChars cs * 10 ^ k) + 0 = ofChars cs * (10 ^ k * 10)
    rw [Nat.add_zero, Nat.mul_comm 10, Nat.mul_assoc]

end EventLedger.Text
