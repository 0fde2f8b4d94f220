import Mathlib.Algebra.Order.Field.Power
import Mathlib.Data.Int.Log
import Mathlib.Data.Rat.Floor
import Mathlib.Tactic.Linarith
import Mathlib.Tactic.Positivity
import Mathlib.Tactic.Ring
import EventLedger.Decimal.Rounding

/-!
# The numbers that decimals denote

A finite decimal denotes a rational number, its `value`. Decimals are compared by their values
(`order?_of_isFinite`), although `compareMagnitude` looks at leading digits first: the exponent of the
leading digit of a number is its logarithm (`log_magnitude`).
-/

namespace EventLedger

namespace Text

theorem digitCount_pos (n : Nat) : 0 < digitCount n := by
  rw [digitCount]
  split <;> omega

theorem lt_pow_digitCount (n : Nat) : n < 10 ^ digitCount n := by
  induction n using digitCount.induct with
  | case1 n small => rw [digitCount, if_pos small]; omega
  | case2 n large ih => rw [digitCount, if_neg large, Nat.pow_succ]; omega

theorem pow_digitCount_le {n : Nat} (h : n ≠ 0) : 10 ^ (digitCount n - 1) ≤ n := by
  induction n using digitCount.induct with
  | case1 n small =>
    rw [digitCount, if_pos small]
    exact Nat.one_le_iff_ne_zero.2 h
  | case2 n large ih =>
    rw [digitCount, if_neg large, Nat.add_sub_cancel]
    have below := ih (by omega)
    obtain ⟨k, hk⟩ := Nat.exists_eq_succ_of_ne_zero (digitCount_pos (n / 10)).ne'
    rw [hk, Nat.succ_sub_one] at below
    rw [hk, Nat.pow_succ]
    omega

theorem digitCount_le_iff {n k : Nat} (h : 0 < k) : digitCount n ≤ k ↔ n < 10 ^ k := by
  refine ⟨fun le => (lt_pow_digitCount n).trans_le (Nat.pow_le_pow_right (by decide) le),
    fun lt => ?_⟩
  by_contra more
  rcases Nat.eq_zero_or_pos n with rfl | pos
  · rw [digitCount, if_pos (by decide)] at more
    omega
  · have low := pow_digitCount_le pos.ne'
    have := Nat.pow_le_pow_right (show 0 < 10 by decide) (show k ≤ digitCount n - 1 by omega)
    omega

end Text

namespace Decimal

open Text

/-- The number `c · 10 ^ e`. -/
def magnitude (c : Nat) (e : Int) : ℚ :=
  c * (10 : ℚ) ^ e

/-- A number with a sign. -/
def withSign (negative : Bool) (q : ℚ) : ℚ :=
  if negative then -q else q

/-- The number that a finite decimal denotes. -/
def value : Decimal → ℚ
  | .finite negative coefficient exponent => withSign negative (magnitude coefficient exponent)
  | _ => 0

@[simp] theorem value_finite (n : Bool) (c : Nat) (e : Int) :
    value (.finite n c e) = withSign n (magnitude c e) := rfl

@[simp] theorem magnitude_zero (e : Int) : magnitude 0 e = 0 := by simp [magnitude]

theorem magnitude_nonneg (c : Nat) (e : Int) : 0 ≤ magnitude c e := by
  unfold magnitude; positivity

theorem magnitude_pos {c : Nat} (h : c ≠ 0) (e : Int) : 0 < magnitude c e := by
  have := Nat.pos_of_ne_zero h
  unfold magnitude; positivity

theorem magnitude_eq_zero {c : Nat} {e : Int} : magnitude c e = 0 ↔ c = 0 := by
  refine ⟨fun zero => by_contra fun h => (magnitude_pos h e).ne' zero, ?_⟩
  rintro rfl
  exact magnitude_zero e

/-- Zeros at the end of the coefficient count as exponent. -/
theorem magnitude_mul_pow (c k : Nat) (e : Int) :
    magnitude (c * 10 ^ k) e = magnitude c (e + k) := by
  rw [magnitude, magnitude, zpow_add₀ (by decide), zpow_natCast]
  push_cast
  ring

theorem zpow_eq_pow_mul {s u : ℤ} (h : s ≤ u) :
    (10 : ℚ) ^ u = 10 ^ (u - s).toNat * 10 ^ s := by
  rw [← zpow_natCast, ← zpow_add₀ (by decide)]
  congr 1
  omega

theorem magnitude_scaleTo {low e : Int} (h : low ≤ e) (c : Nat) :
    magnitude (scaleTo low c e) low = magnitude c e := by
  rw [scaleTo]
  split
  next zero => rw [zero, magnitude_zero, magnitude_zero]
  next =>
    refine (magnitude_mul_pow ..).trans ?_
    congr 1
    omega

theorem magnitude_lt_magnitude {c d : Nat} {e : Int} : magnitude c e < magnitude d e ↔ c < d := by
  have pos : (0 : ℚ) < (10 : ℚ) ^ e := by positivity
  rw [magnitude, magnitude, mul_lt_mul_iff_left₀ pos, Nat.cast_lt]

theorem magnitude_inj {c d : Nat} {e : Int} : magnitude c e = magnitude d e ↔ c = d := by
  have pos : (0 : ℚ) < (10 : ℚ) ^ e := by positivity
  rw [magnitude, magnitude, mul_left_inj' pos.ne', Nat.cast_inj]

/-- A logarithm is determined by the powers around the number. -/
theorem log_eq {q : ℚ} {t : Int} (low : (10 : ℚ) ^ t ≤ q) (high : q < (10 : ℚ) ^ (t + 1)) :
    Int.log 10 q = t := by
  have pos : 0 < q := lt_of_lt_of_le (by positivity) low
  have above := (Int.zpow_le_iff_le_log (by decide : 1 < 10) pos).1 (by exact_mod_cast low)
  have below := (Int.lt_zpow_iff_log_lt (by decide : 1 < 10) pos).1 (by exact_mod_cast high)
  omega

theorem zpow_adjusted_le {c : Nat} (h : c ≠ 0) (e : Int) :
    (10 : ℚ) ^ adjusted c e ≤ magnitude c e := by
  have bound : (10 : ℚ) ^ (digitCount c - 1) ≤ c := by exact_mod_cast pow_digitCount_le h
  have exponent : adjusted c e = (digitCount c - 1 : Nat) + e := by
    have := digitCount_pos c
    rw [adjusted]
    omega
  rw [exponent, zpow_add₀ (by decide), zpow_natCast, magnitude]
  exact mul_le_mul_of_nonneg_right bound (by positivity)

theorem lt_zpow_adjusted (c : Nat) (e : Int) : magnitude c e < (10 : ℚ) ^ (adjusted c e + 1) := by
  have bound : (c : ℚ) < 10 ^ digitCount c := by exact_mod_cast lt_pow_digitCount c
  have exponent : adjusted c e + 1 = digitCount c + e := by rw [adjusted]; ring
  rw [exponent, zpow_add₀ (by decide), zpow_natCast, magnitude]
  exact mul_lt_mul_of_pos_right bound (by positivity)

/-- The exponent of the leading digit is the logarithm. -/
theorem log_magnitude {c : Nat} (h : c ≠ 0) (e : Int) :
    Int.log 10 (magnitude c e) = adjusted c e :=
  log_eq (zpow_adjusted_le h e) (lt_zpow_adjusted c e)

theorem lt_of_adjusted_lt {c d : Nat} {e f : Int} (hd : d ≠ 0) (h : adjusted c e < adjusted d f) :
    magnitude c e < magnitude d f :=
  calc
    magnitude c e < (10 : ℚ) ^ (adjusted c e + 1) := lt_zpow_adjusted c e
    _ ≤ (10 : ℚ) ^ adjusted d f := zpow_le_zpow_right₀ (by norm_num) h
    _ ≤ magnitude d f := zpow_adjusted_le hd f

@[simp] theorem withSign_false (q : ℚ) : withSign false q = q := rfl

@[simp] theorem withSign_true (q : ℚ) : withSign true q = -q := rfl

@[simp] theorem withSign_zero (n : Bool) : withSign n 0 = 0 := by
  cases n <;> simp

theorem withSign_not (n : Bool) (q : ℚ) : withSign (!n) q = -withSign n q := by
  cases n <;> simp

theorem abs_withSign (n : Bool) (q : ℚ) : |withSign n q| = |q| := by
  cases n <;> simp

theorem abs_withSign_magnitude (n : Bool) (c : Nat) (e : Int) :
    |withSign n (magnitude c e)| = magnitude c e := by
  rw [abs_withSign, abs_of_nonneg (magnitude_nonneg c e)]

theorem withSign_magnitude_eq_zero {n : Bool} {c : Nat} {e : Int} :
    withSign n (magnitude c e) = 0 ↔ c = 0 := by
  rw [← abs_eq_zero, abs_withSign_magnitude, magnitude_eq_zero]

theorem decide_withSign_neg (n : Bool) {q : ℚ} (pos : 0 < q) : decide (withSign n q < 0) = n := by
  cases n with
  | false => exact decide_eq_false pos.not_gt
  | true => exact decide_eq_true (neg_lt_zero.2 pos)

@[simp] theorem value_zero : zero.value = 0 := by
  simp [zero, ofNat]

/-! ## Order -/

theorem compareMagnitude_eq (c : Nat) (e : Int) (d : Nat) (f : Int) :
    compareMagnitude c e d f = Ord.compare (magnitude c e) (magnitude d f) := by
  unfold compareMagnitude
  split_ifs with hc hd hd above below
  · rw [hc, hd, magnitude_zero, magnitude_zero, compare_eq_iff_eq.2 rfl]
  · rw [hc, magnitude_zero, compare_lt_iff_lt.2 (magnitude_pos hd f)]
  · rw [hd, magnitude_zero, compare_gt_iff_gt.2 (magnitude_pos hc e)]
  · rw [compare_lt_iff_lt.2 (lt_of_adjusted_lt hd above)]
  · rw [compare_gt_iff_gt.2 (lt_of_adjusted_lt hc below)]
  · rw [← magnitude_scaleTo (min_le_left e f) c, ← magnitude_scaleTo (min_le_right e f) d]
    rcases lt_trichotomy (scaleTo (min e f) c e) (scaleTo (min e f) d f) with lt | eq | gt
    · rw [compare_lt_iff_lt.2 lt, compare_lt_iff_lt.2 (magnitude_lt_magnitude.2 lt)]
    · rw [compare_eq_iff_eq.2 eq, compare_eq_iff_eq.2 (magnitude_inj.2 eq)]
    · rw [compare_gt_iff_gt.2 gt, compare_gt_iff_gt.2 (magnitude_lt_magnitude.2 gt)]

/-- Finite decimals are in the order of their values. -/
theorem order?_of_isFinite {a b : Decimal} (ha : a.isFinite = true) (hb : b.isFinite = true) :
    a.order? b = some (Ord.compare a.value b.value) := by
  obtain ⟨n, c, e⟩ | _ | _ := a <;> cases ha
  obtain ⟨m, d, f⟩ | _ | _ := b <;> cases hb
  simp only [order?, value_finite, Option.some.injEq]
  split_ifs with zeros hc hm hd hn
  · rw [zeros.1, zeros.2, magnitude_zero, magnitude_zero, withSign_zero, withSign_zero,
      compare_eq_iff_eq.2 rfl]
  · have pos := magnitude_pos (fun hd => zeros ⟨hc, hd⟩ : d ≠ 0) f
    rw [hc, hm, magnitude_zero, withSign_zero, withSign_true, compare_gt_iff_gt.2 (by linarith)]
  · have pos := magnitude_pos (fun hd => zeros ⟨hc, hd⟩ : d ≠ 0) f
    rw [hc, Bool.eq_false_of_not_eq_true hm, magnitude_zero, withSign_zero, withSign_false,
      compare_lt_iff_lt.2 pos]
  · have pos := magnitude_pos hc e
    rw [hd, hn, magnitude_zero, withSign_zero, withSign_true, compare_lt_iff_lt.2 (by linarith)]
  · have pos := magnitude_pos hc e
    rw [hd, Bool.eq_false_of_not_eq_true hn, magnitude_zero, withSign_zero, withSign_false,
      compare_gt_iff_gt.2 pos]
  · have hp := magnitude_pos hc e
    have hq := magnitude_pos hd f
    cases n <;> cases m <;> simp only [withSign_false, withSign_true]
    · exact compareMagnitude_eq ..
    · exact (compare_gt_iff_gt.2 (by linarith)).symm
    · exact (compare_lt_iff_lt.2 (by linarith)).symm
    · rw [compareMagnitude_eq]
      rcases lt_trichotomy (magnitude d f) (magnitude c e) with lt | eq | gt
      · rw [compare_lt_iff_lt.2 lt, compare_lt_iff_lt.2 (neg_lt_neg lt)]
      · rw [compare_eq_iff_eq.2 eq, compare_eq_iff_eq.2 (congrArg Neg.neg eq.symm)]
      · rw [compare_gt_iff_gt.2 gt, compare_gt_iff_gt.2 (neg_lt_neg gt)]

theorem not_signaling_of_isFinite {a : Decimal} (h : a.isFinite = true) : a.isSignaling = false := by
  cases a <;> first | rfl | cases h

section

variable {a b : Decimal} (ha : a.isFinite = true) (hb : b.isFinite = true)
include ha hb

theorem compare_of_isFinite : a.compare b = .ok (Ord.compare a.value b.value) := by
  rw [compare, order?_of_isFinite ha hb]

theorem equals_of_isFinite : a.equals b = .ok (decide (a.value = b.value)) := by
  rw [equals, not_signaling_of_isFinite ha, not_signaling_of_isFinite hb, order?_of_isFinite ha hb]
  by_cases same : a.value = b.value
  · simp [same]
  · have ne : Ord.compare a.value b.value ≠ .eq := fun eq => same (compare_eq_iff_eq.1 eq)
    simp [same, ne]

theorem less_of_isFinite : a.less b = .ok (decide (a.value < b.value)) := by
  rw [less, compare_of_isFinite ha hb]
  refine congrArg Except.ok ?_
  rcases lt_trichotomy a.value b.value with lt | eq | gt
  · rw [compare_lt_iff_lt.2 lt, decide_eq_true lt]; rfl
  · rw [compare_eq_iff_eq.2 eq, decide_eq_false eq.not_lt]; rfl
  · rw [compare_gt_iff_gt.2 gt, decide_eq_false gt.not_gt]; rfl

theorem atMost_of_isFinite : a.atMost b = .ok (decide (a.value ≤ b.value)) := by
  rw [atMost, compare_of_isFinite ha hb]
  refine congrArg Except.ok ?_
  rcases lt_trichotomy a.value b.value with lt | eq | gt
  · rw [compare_lt_iff_lt.2 lt, decide_eq_true lt.le]; rfl
  · rw [compare_eq_iff_eq.2 eq, decide_eq_true eq.le]; rfl
  · rw [compare_gt_iff_gt.2 gt, decide_eq_false gt.not_ge]; rfl

end

end Decimal

end EventLedger
