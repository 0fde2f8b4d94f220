import EventLedger.Double.Shortest
import EventLedger.Proofs.DecimalText
import EventLedger.Proofs.DoubleRounding

/-!
# The shortest decimal of a double reads back

The decimal that `shortest` finds is attracted by the double (`attracts_shortest`), so that reading it
gives the double again (`ofDecimal_of_attracts`). A decimal is found since the seventeenth grid is
finer than the interval of the numbers that are rounded to the double (`exists_onGrid`).
-/

namespace EventLedger.Double

open Decimal (magnitude tenTo_eq)

/-! ## The interval -/

/-- A power of ten as a fraction. -/
theorem tenTo_toNat (k : ℤ) : (tenTo k.toNat : ℚ) = 10 ^ k * tenTo (-k).toNat := by
  rw [tenTo_eq, tenTo_eq]
  push_cast
  rw [← zpow_natCast, ← zpow_natCast, ← zpow_add₀ (by norm_num)]
  congr 1
  omega

namespace Interval

variable {i : Interval}

/-- A point of a grid next to the parts of the interval, as whole numbers. -/
theorem scaled_point (n : Nat) (u : ℤ) :
    ((n * tenTo u.toNat * i.den : Nat) : ℚ) = magnitude n u * i.den * tenTo (-u).toNat := by
  push_cast
  rw [tenTo_toNat u, magnitude]
  ring

theorem le_point (n bound : Nat) (u : ℤ) (pos : 0 < i.den) :
    bound * tenTo (-u).toNat ≤ n * tenTo u.toNat * i.den ↔
      (bound / i.den : ℚ) ≤ magnitude n u := by
  have den : (0 : ℚ) < i.den := by exact_mod_cast pos
  have scale : (0 : ℚ) < tenTo (-u).toNat := by exact_mod_cast tenTo_pos _
  rw [div_le_iff₀ den, ← Nat.cast_le (α := ℚ), scaled_point, Nat.cast_mul,
    mul_le_mul_iff_of_pos_right scale]

theorem point_le (n bound : Nat) (u : ℤ) (pos : 0 < i.den) :
    n * tenTo u.toNat * i.den ≤ bound * tenTo (-u).toNat ↔
      magnitude n u ≤ (bound / i.den : ℚ) := by
  have den : (0 : ℚ) < i.den := by exact_mod_cast pos
  have scale : (0 : ℚ) < tenTo (-u).toNat := by exact_mod_cast tenTo_pos _
  rw [le_div_iff₀ den, ← Nat.cast_le (α := ℚ), scaled_point, Nat.cast_mul,
    mul_le_mul_iff_of_pos_right scale]

/-- What it means for a point of a grid to lie in the interval. -/
theorem contains_iff (pos : 0 < i.den) (n : Nat) (u : ℤ) :
    i.contains n u = true ↔
      if i.closed then
        (i.lower / i.den : ℚ) ≤ magnitude n u ∧ magnitude n u ≤ (i.upper / i.den : ℚ)
      else (i.lower / i.den : ℚ) < magnitude n u ∧ magnitude n u < (i.upper / i.den : ℚ) := by
  have above := i.le_point n i.lower u pos
  have below := i.point_le n i.upper u pos
  have above' := i.le_point n i.upper u pos
  have below' := i.point_le n i.lower u pos
  rw [contains]
  split
  · rw [Bool.and_eq_true, decide_eq_true_eq, decide_eq_true_eq, above, below]
  · rw [Bool.and_eq_true, decide_eq_true_eq, decide_eq_true_eq, ← not_le, ← not_le, below', above',
      not_le, not_le]

/-- The two neighbours of the number on a grid are tried, one after the other. -/
theorem onGrid?_eq (i : Interval) (u : ℤ) :
    let below := i.num * tenTo (-u).toNat / (i.den * tenTo u.toNat)
    ∃ a b, (a = below ∧ b = below + 1 ∨ a = below + 1 ∧ b = below) ∧
      i.onGrid? u =
        if i.contains a u then some a else if i.contains b u then some b else none := by
  intro below
  unfold onGrid?
  dsimp only
  split
  next up =>
    refine ⟨below + 1, below, .inr ⟨rfl, rfl⟩, ?_⟩
    rw [if_neg (Nat.succ_ne_self _)]
  next => exact ⟨below, below + 1, .inl ⟨rfl, rfl⟩, by rw [if_pos rfl]⟩

theorem contains_of_onGrid? {u : ℤ} {n : Nat} (h : i.onGrid? u = some n) :
    i.contains n u = true := by
  obtain ⟨a, b, -, tried⟩ := i.onGrid?_eq u
  rw [tried] at h
  split at h
  next inside => cases h; exact inside
  next =>
    split at h
    next inside => cases h; exact inside
    next => cases h

theorem contains_of_search {top : ℤ} {fuel used : Nat} {p : Nat × ℤ}
    (h : i.search top fuel used = some p) : i.contains p.1 p.2 = true := by
  induction fuel generalizing used with
  | zero => cases h
  | succ fuel ih =>
    rw [search] at h
    split at h
    next found => cases h; exact contains_of_onGrid? found
    next => exact ih h

theorem exists_search {top : ℤ} {fuel used k : Nat} {n : Nat} (low : used ≤ k)
    (high : k < used + fuel) (found : i.onGrid? (top - k + 1) = some n) :
    ∃ p, i.search top fuel used = some p := by
  induction fuel generalizing used with
  | zero => omega
  | succ fuel ih =>
    rw [search]
    cases here : i.onGrid? (top - used + 1) with
    | some m => exact ⟨_, rfl⟩
    | none =>
      refine ih (Nat.lt_of_le_of_ne low ?_) (by omega)
      rintro rfl
      cases found.symm.trans here

/-- The leading digit is not above the number. -/
theorem leadingDigit_le (i : Interval) (hn : i.num ≠ 0) (hd : 0 < i.den) :
    (10 : ℚ) ^ i.leadingDigit ≤ i.num / i.den := by
  have den : (0 : ℚ) < i.den := by exact_mod_cast hd
  have n_low : (10 : ℚ) ^ ((Text.digitCount i.num : ℤ) - 1) ≤ i.num := by
    have pow := Text.pow_digitCount_le hn
    have pos := Text.digitCount_pos i.num
    rw [show ((Text.digitCount i.num : ℤ) - 1) = ((Text.digitCount i.num - 1 : Nat) : ℤ) by omega,
      zpow_natCast]
    exact_mod_cast pow
  have d_high : (i.den : ℚ) ≤ 10 ^ (Text.digitCount i.den : ℤ) := by
    rw [zpow_natCast]
    exact_mod_cast (Text.lt_pow_digitCount i.den).le
  rw [le_div_iff₀ den]
  unfold leadingDigit
  dsimp only
  split
  next h =>
    generalize (Text.digitCount i.num : ℤ) - Text.digitCount i.den = guess at h
    have scale : (0 : ℚ) < tenTo (-guess).toNat := by exact_mod_cast tenTo_pos _
    rw [← Nat.cast_le (α := ℚ)] at h
    push_cast at h
    rw [tenTo_toNat guess, ← mul_assoc, mul_le_mul_iff_of_pos_right scale, mul_comm] at h
    exact h
  next =>
    calc (10 : ℚ) ^ ((Text.digitCount i.num : ℤ) - Text.digitCount i.den - 1) * i.den
        ≤ 10 ^ ((Text.digitCount i.num : ℤ) - Text.digitCount i.den - 1) *
            10 ^ (Text.digitCount i.den : ℤ) := by gcongr
      _ = 10 ^ ((Text.digitCount i.num : ℤ) - 1) := by
        rw [← zpow_add₀ (by norm_num)]
        congr 1
        omega
      _ ≤ i.num := n_low

/-- A grid that is finer than the interval has a point in it, next to the number itself. -/
theorem exists_onGrid (pos : 0 < i.den) {u : ℤ}
    (inside : (i.lower / i.den : ℚ) < i.num / i.den ∧ (i.num / i.den : ℚ) < i.upper / i.den)
    (fine : (10 : ℚ) ^ u < (i.upper / i.den : ℚ) - i.lower / i.den) :
    ∃ n, i.onGrid? u = some n := by
  have den : (0 : ℚ) < i.den := by exact_mod_cast pos
  have unit : (0 : ℚ) < 10 ^ u := zpow_pos (by norm_num) u
  set below := i.num * tenTo (-u).toNat / (i.den * tenTo u.toNat) with hbelow
  have divisor : 0 < i.den * tenTo u.toNat := Nat.mul_pos pos (tenTo_pos _)
  have floor : magnitude below u ≤ i.num / i.den := by
    rw [← point_le _ _ _ pos]
    have := Nat.div_mul_le_self (i.num * tenTo (-u).toNat) (i.den * tenTo u.toNat)
    rw [← hbelow] at this
    calc below * tenTo u.toNat * i.den = below * (i.den * tenTo u.toNat) := by ring
      _ ≤ _ := this
  have ceil : (i.num / i.den : ℚ) < magnitude (below + 1) u := by
    rw [← not_le, ← point_le _ _ _ pos, not_le]
    have := Nat.lt_div_mul_add (a := i.num * tenTo (-u).toNat) divisor
    rw [← hbelow] at this
    calc i.num * tenTo (-u).toNat < below * (i.den * tenTo u.toNat) + i.den * tenTo u.toNat := this
      _ = (below + 1) * tenTo u.toNat * i.den := by ring
  have next : magnitude (below + 1) u = magnitude below u + 10 ^ u := by
    rw [magnitude, magnitude]
    push_cast
    ring
  -- If both neighbours were outside, the grid would not be finer than the interval.
  have either : i.contains below u = true ∨ i.contains (below + 1) u = true := by
    rw [contains_iff pos, contains_iff pos, next]
    rw [next] at ceil
    by_cases low : (i.lower / i.den : ℚ) < magnitude below u
    · left
      split
      · exact ⟨low.le, by linarith⟩
      · exact ⟨low, by linarith⟩
    · right
      split
      · exact ⟨by linarith, by linarith⟩
      · exact ⟨by linarith, by linarith⟩
  obtain ⟨a, b, neighbours, tried⟩ := i.onGrid?_eq u
  rw [← hbelow] at neighbours
  rw [tried]
  split
  next => exact ⟨_, rfl⟩
  next not_a =>
    split
    next => exact ⟨_, rfl⟩
    next not_b =>
      rcases neighbours with ⟨rfl, rfl⟩ | ⟨rfl, rfl⟩
      · exact absurd either (not_or.2 ⟨not_a, not_b⟩)
      · exact absurd either (not_or.2 ⟨not_b, not_a⟩)

end Interval

/-! ## The interval of a double -/

section

variable {m : Nat} {e : Int}

theorem ofBinary_den_pos (m : Nat) (e : Int) : 0 < (Interval.ofBinary m e).den :=
  Nat.mul_pos (by decide) (twoTo_pos _)

/-- The interval of a double in terms of its last bit. -/
theorem ofBinary_bounds (ne : m ≠ 0) (e : Int) :
    let i := Interval.ofBinary m e
    (i.num / i.den : ℚ) = m * 2 ^ e ∧ (i.lower / i.den : ℚ) = (m - reach m e) * 2 ^ e ∧
      (i.upper / i.den : ℚ) = (m + 1 / 2) * 2 ^ e := by
  intro i
  have one : 1 ≤ m := Nat.pos_of_ne_zero ne
  have scale : (0 : ℚ) < twoTo (-e).toNat := by exact_mod_cast twoTo_pos _
  have num : i.num = 4 * m * twoTo e.toNat := rfl
  have den : i.den = 4 * twoTo (-e).toNat := rfl
  have upper : i.upper = (4 * m + 2) * twoTo e.toNat := rfl
  have lower : (i.lower : ℚ) = (4 * m - 4 * reach m e) * twoTo e.toNat := by
    show (((4 * m - if m = twoTo (precision - 1) ∧ minUnit < e then 1 else 2) * twoTo e.toNat :
      Nat) : ℚ) = _
    have power : twoTo (precision - 1) = 2 ^ 52 := rfl
    rw [power, reach]
    split
    · rw [Nat.cast_mul, Nat.cast_sub (by omega)]
      push_cast
      ring
    · rw [Nat.cast_mul, Nat.cast_sub (by omega)]
      push_cast
      ring
  rw [lower, num, den, upper]
  push_cast
  rw [twoTo_toNat e]
  refine ⟨by field_simp, by field_simp, ?_⟩
  field_simp
  ring

theorem attracts_of_contains (ne : m ≠ 0) {n : Nat} {u : ℤ}
    (h : (Interval.ofBinary m e).contains n u = true) : Attracts m e (magnitude n u) := by
  obtain ⟨-, lower, upper⟩ := ofBinary_bounds ne e
  rw [Interval.contains_iff (ofBinary_den_pos m e), lower, upper] at h
  have closed : (Interval.ofBinary m e).closed = (m % 2 == 0) := rfl
  rw [closed] at h
  split at h
  next even =>
    refine ⟨h.1, h.2, fun odd => ?_⟩
    rw [beq_iff_eq] at even
    omega
  next => exact ⟨h.1.le, h.2.le, fun _ => h⟩

/-- Seventeen digits are always enough. -/
theorem exists_shortest (normal : Normal m e) :
    ∃ p, (Interval.ofBinary m e).search (Interval.ofBinary m e).leadingDigit 17 1 = some p := by
  obtain ⟨num, lower, upper⟩ := ofBinary_bounds normal.pos e
  have den := ofBinary_den_pos m e
  have unit : (0 : ℚ) < 2 ^ e := zpow_pos two_pos e
  have one : (1 : ℚ) ≤ m := by exact_mod_cast Nat.pos_of_ne_zero normal.pos
  have short : (m : ℚ) < 2 ^ 53 := by exact_mod_cast normal.short
  have below : 0 < reach m e := by
    rcases reach_cases m e with ⟨-, -, r⟩ | r <;> rw [r] <;> norm_num
  have ne : (Interval.ofBinary m e).num ≠ 0 := by
    intro zero
    rw [zero, Nat.cast_zero, zero_div] at num
    have := mul_pos (lt_of_lt_of_le one_pos one) unit
    rw [← num] at this
    exact lt_irrefl _ this
  have leads := Interval.leadingDigit_le _ ne den
  rw [num] at leads
  obtain ⟨n, found⟩ := Interval.exists_onGrid (i := Interval.ofBinary m e) den
    (u := (Interval.ofBinary m e).leadingDigit - (17 : Nat) + 1)
    (by rw [num, lower, upper]; constructor <;> gcongr <;> linarith) (by
      rw [lower, upper]
      have step : (10 : ℚ) ^ ((Interval.ofBinary m e).leadingDigit - (17 : Nat) + 1) =
          10 ^ (Interval.ofBinary m e).leadingDigit / 10 ^ 16 := by
        rw [div_eq_mul_inv, ← zpow_natCast, ← zpow_neg, ← zpow_add₀ (by norm_num)]
        congr 1
        push_cast
        omega
      rw [step, div_lt_iff₀ (by positivity)]
      refine leads.trans_lt ?_
      rcases reach_cases m e with ⟨power, -, r⟩ | r
      · rw [r, power]; push_cast; nlinarith
      · rw [r]; nlinarith)
  exact Interval.exists_search (by decide) (by decide) found

theorem contains_ne_zero (ne : m ≠ 0) {n : Nat} {u : ℤ}
    (h : (Interval.ofBinary m e).contains n u = true) : n ≠ 0 := by
  rintro rfl
  have pos := (attracts_of_contains ne h).pos ne
  rw [Decimal.magnitude_zero] at pos
  exact lt_irrefl _ pos

theorem shortest_ne_zero (ne : m ≠ 0) (e : Int) : (shortest m e).1 ≠ 0 := by
  have kept : ∀ {n : Nat} (u : ℤ), n ≠ 0 → (Decimal.stripZeros n u).1 ≠ 0 := by
    intro n u ne zero
    obtain ⟨-, ends, -⟩ := Decimal.stripZeros_spec ne u
    exact ends (by rw [zero])
  rw [shortest]
  dsimp only
  cases found : (Interval.ofBinary m e).search (Interval.ofBinary m e).leadingDigit 17 1 with
  | none => exact kept _ ne
  | some p => exact kept _ (contains_ne_zero ne (Interval.contains_of_search found))

/-- The shortest decimal of a double is attracted by it. -/
theorem attracts_shortest (normal : Normal m e) :
    Attracts m e (magnitude (shortest m e).1 (shortest m e).2) := by
  obtain ⟨⟨n, u⟩, found⟩ := exists_shortest normal
  have inside := Interval.contains_of_search found
  have stripped : shortest m e = Decimal.stripZeros n u := by
    rw [shortest]
    dsimp only
    rw [found]
    rfl
  obtain ⟨same, -⟩ := Decimal.stripZeros_spec (contains_ne_zero normal.pos inside) u
  rw [stripped, same]
  exact attracts_of_contains normal.pos inside

theorem two_zpow_lt {k n : ℕ} (h : k < 3 * n) : (2 : ℚ) ^ (k : ℤ) < 10 ^ (n : ℤ) := by
  rw [zpow_natCast, zpow_natCast]
  calc (2 : ℚ) ^ k < 2 ^ (3 * n) := pow_lt_pow_right₀ one_lt_two h
    _ = (2 ^ 3) ^ n := pow_mul ..
    _ ≤ 10 ^ n := by gcongr; norm_num

theorem Attracts.adjusted_le (normal : Normal m e) {c : Nat} (ne : c ≠ 0) {k : Int}
    (h : Attracts m e (magnitude c k)) : Decimal.adjusted c k ≤ 400 := by
  have below : (10 : ℚ) ^ Decimal.adjusted c k < 10 ^ (401 : ℤ) :=
    calc (10 : ℚ) ^ Decimal.adjusted c k ≤ magnitude c k := Decimal.zpow_adjusted_le ne k
      _ < 2 ^ 53 * 2 ^ e := h.lt normal.short
      _ ≤ 2 ^ 53 * 2 ^ (971 : ℤ) := by
        gcongr
        · exact one_le_two
        · exact normal.high
      _ = 2 ^ (1024 : ℤ) := by rw [← zpow_natCast, ← zpow_add₀ two_ne_zero]; rfl
      _ < 10 ^ (401 : ℤ) := two_zpow_lt (by decide)
  have := (zpow_lt_zpow_iff_right₀ (by norm_num : (1 : ℚ) < 10)).1 below
  omega

theorem Attracts.le_adjusted (normal : Normal m e) {c : Nat} {k : Int}
    (h : Attracts m e (magnitude c k)) : -400 ≤ Decimal.adjusted c k := by
  have unit : (0 : ℚ) < 2 ^ e := zpow_pos two_pos e
  have half : (1 / 2 : ℚ) ≤ m - reach m e := by
    have one : (1 : ℚ) ≤ m := by exact_mod_cast Nat.pos_of_ne_zero normal.pos
    rcases reach_cases m e with ⟨-, -, r⟩ | r <;> rw [r] <;> linarith
  have above : (10 : ℚ) ^ (-400 : ℤ) < 10 ^ (Decimal.adjusted c k + 1) :=
    calc (10 : ℚ) ^ (-400 : ℤ) = (10 ^ (400 : ℤ))⁻¹ := zpow_neg ..
      _ < (2 ^ (1075 : ℤ))⁻¹ := inv_strictAnti₀ (zpow_pos two_pos _) (two_zpow_lt (by decide))
      _ = 1 / 2 * 2 ^ (-1074 : ℤ) := by
        rw [← zpow_neg, one_div, ← zpow_neg_one, ← zpow_add₀ two_ne_zero]
        rfl
      _ ≤ (m - reach m e) * 2 ^ e := by
        gcongr
        · exact one_le_two
        · exact normal.low
      _ ≤ magnitude c k := h.low
      _ < 10 ^ (Decimal.adjusted c k + 1) := Decimal.lt_zpow_adjusted c k
  have := (zpow_lt_zpow_iff_right₀ (by norm_num : (1 : ℚ) < 10)).1 above
  omega

/-- Whatever decimal a double attracts is read as it. -/
theorem ofDecimal_of_attracts (negative : Bool) (normal : Normal m e) {c : Nat} {k : Int}
    (h : Attracts m e (magnitude c k)) : ofDecimal negative c k = .finite negative m e := by
  have pos := h.pos normal.pos
  have ne : c ≠ 0 := by
    rintro rfl
    rw [Decimal.magnitude_zero] at pos
    exact lt_irrefl _ pos
  have scale : tenTo (-k).toNat ≠ 0 := (tenTo_pos _).ne'
  have exact : ((c * tenTo k.toNat : Nat) : ℚ) / (tenTo (-k).toNat : Nat) = magnitude c k := by
    have scale' : (tenTo (-k).toNat : ℚ) ≠ 0 := by exact_mod_cast scale
    rw [Nat.cast_mul, tenTo_toNat k, magnitude]
    field_simp
  rw [ofDecimal, if_neg ne, if_neg (not_lt.2 (h.adjusted_le normal ne)),
    if_neg (not_lt.2 (h.le_adjusted normal))]
  exact ofRatio_of_attracts negative scale normal (exact ▸ h)

end

end EventLedger.Double
