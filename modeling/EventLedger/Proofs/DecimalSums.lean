import EventLedger.Proofs.DecimalRounding

/-!
# Sums of decimals

`add` and `sub` give the exact sum and difference, rounded once (`add_rounds`, `sub_rounds`). A
summand that lies wholly under the guard of the other one may be replaced by a single unit there
(`condense`): both sums lie strictly between the same two neighbours at which rounding can change
(`nearest_add`, `nearest_sub`).
-/

namespace EventLedger.Decimal

open Text

/-- Between two whole numbers, and behind a unit that is a multiple of ten, the side of a half is
decided by the whole part. -/
theorem halfEven_div_pow {a k : Nat} (hk : 0 < k) {t : ℚ} (pos : 0 < t) (lt : t < 1) :
    halfEven ((a + t) / 10 ^ k) =
      (a / 10 ^ k + if 10 ^ k ≤ 2 * (a % 10 ^ k) then 1 else 0 : Nat) := by
  have parts : a = 10 ^ k * (a / 10 ^ k) + a % 10 ^ k := (Nat.div_add_mod ..).symm
  have rest : a % 10 ^ k < 10 ^ k := Nat.mod_lt _ (by positivity)
  have even : 10 ^ k = 2 * (5 * 10 ^ (k - 1)) := by
    obtain ⟨j, rfl⟩ := Nat.exists_eq_succ_of_ne_zero hk.ne'
    rw [Nat.succ_sub_one, Nat.pow_succ]
    ring
  generalize a / 10 ^ k = whole at parts ⊢
  generalize a % 10 ^ k = r at parts rest ⊢
  generalize 5 * 10 ^ (k - 1) = half at even
  have rest' : (r : ℚ) + 1 ≤ (10 ^ k : Nat) := by exact_mod_cast rest
  have exact : (a + t) / 10 ^ k = whole + (r + t) / (10 ^ k : Nat) := by
    rw [parts]
    push_cast
    field_simp
    ring
  rw [exact, halfEven_of_rest (by positivity) (by linarith)]
  by_cases above : 10 ^ k ≤ 2 * r
  · have above' : ((10 ^ k : Nat) : ℚ) ≤ 2 * r := by exact_mod_cast above
    rw [if_pos above, if_pos (.inl (by linarith))]
    push_cast
    rfl
  · have below' : 2 * ((r : ℚ) + 1) ≤ (10 ^ k : Nat) := by
      exact_mod_cast (by omega : 2 * (r + 1) ≤ 10 ^ k)
    rw [if_neg above, if_neg, Nat.add_zero]
    rintro (more | ⟨same, -⟩) <;> linarith

theorem log_add {a : Nat} (h : a ≠ 0) (s : ℤ) {t : ℚ} (pos : 0 ≤ t) (lt : t < 1) :
    Int.log 10 ((a + t) * 10 ^ s) = adjusted a s := by
  have ten : (0 : ℚ) < 10 ^ s := by positivity
  refine log_eq ((zpow_adjusted_le h s).trans ?_) ?_
  · rw [magnitude]
    nlinarith
  · have bound : (a : ℚ) + 1 ≤ 10 ^ digitCount a := by exact_mod_cast lt_pow_digitCount a
    have exponent : adjusted a s + 1 = digitCount a + s := by rw [adjusted]; ring
    rw [exponent, zpow_add₀ (by decide), zpow_natCast]
    exact mul_lt_mul_of_pos_right (by linarith) ten

/-- If the last digit that is kept lies behind the unit `10 ^ s`, it does not matter how far a
number is behind a multiple of the unit. -/
theorem nearest_between {a : Nat} (h : a ≠ 0) {s : ℤ} (behind : s < max minUnit (adjusted a s - 27))
    {t t' : ℚ} (pos : 0 < t) (lt : t < 1) (pos' : 0 < t') (lt' : t' < 1) :
    nearest ((a + t) * 10 ^ s) = nearest ((a + t') * 10 ^ s) := by
  have last : ∀ r : ℚ, 0 < r → r < 1 →
      lastExponent ((a + r) * 10 ^ s) = max minUnit (adjusted a s - 27) := by
    intro r pos lt
    rw [lastExponent, log_add h s pos.le lt]
    rfl
  rw [nearest, nearest, last t pos lt, last t' pos' lt']
  generalize max minUnit (adjusted a s - 27) = u at behind
  have shifted : ∀ r : ℚ, (a + r) * 10 ^ s / 10 ^ u = (a + r) / 10 ^ (u - s).toNat := by
    intro r
    rw [zpow_eq_pow_mul behind.le]
    field_simp
  rw [shifted, shifted, halfEven_div_pow (by omega) pos lt, halfEven_div_pow (by omega) pos' lt']

/-- A number of 29 or more digits, with something less than a tenth of its unit added. -/
theorem nearest_add {a : Nat} (h : 10 ^ precision ≤ a) (s : ℤ) {t t' : ℚ} (pos : 0 < t)
    (lt : t < 1) (pos' : 0 < t') (lt' : t' < 1) :
    nearest ((a + t) * 10 ^ s) = nearest ((a + t') * 10 ^ s) := by
  have ne : a ≠ 0 := by
    rintro rfl
    exact absurd h (by decide)
  have digits : precision < digitCount a := by
    by_contra few
    exact absurd ((digitCount_le_iff (by decide)).1 (not_lt.1 few)) (not_lt.2 h)
  have : precision = 28 := rfl
  refine nearest_between ne ?_ pos lt pos' lt'
  rw [adjusted]
  omega

/-- A number of 29 or more digits, with something up to a tenth of its unit taken away. -/
theorem nearest_sub {a : Nat} (h : 10 ^ precision ≤ a) (s : ℤ) {t t' : ℚ} (pos : 0 < t)
    (lt : t < 1 / 2) (pos' : 0 < t') (lt' : t' < 1 / 2) :
    nearest ((a - t) * 10 ^ s) = nearest ((a - t') * 10 ^ s) := by
  obtain ⟨b, rfl⟩ : ∃ b, a = b + 1 := ⟨a - 1, by
    have := (by decide : 0 < 10 ^ precision)
    omega⟩
  have ne : b ≠ 0 := by
    rintro rfl
    exact absurd h (by decide)
  have digits : precision ≤ digitCount b := by
    by_contra few
    have bound := (digitCount_le_iff (by decide)).1 (by omega : digitCount b ≤ precision - 1)
    have : 10 ^ (precision - 1) + 1 < 10 ^ precision := by decide
    omega
  have split : ∀ r : ℚ, ((b + 1 : Nat) - r : ℚ) = b + (1 - r) := by
    intro r
    push_cast
    ring
  rw [split, split]
  have : precision = 28 := rfl
  rcases lt_or_ge s (max minUnit (adjusted b s - 27)) with behind | own
  · exact nearest_between ne behind (by linarith) (by linarith) (by linarith) (by linarith)
  · have last : ∀ r : ℚ, 0 < r → r < 1 / 2 → nearest ((b + (1 - r)) * 10 ^ s) = (b + 1) * 10 ^ s := by
      intro r pos lt
      have unit : lastExponent ((b + (1 - r)) * 10 ^ s) = s := by
        rw [lastExponent, log_add ne s (by linarith) (by linarith)]
        rw [adjusted] at own ⊢
        omega
      have whole : halfEven (b + (1 - r)) = (b + 1 : ℤ) :=
        halfEven_eq_of_gt (by push_cast; linarith) (by push_cast; linarith)
      rw [nearest, unit, mul_div_cancel_right₀ _ (by positivity), whole]
      push_cast
      rfl
    rw [last t pos lt, last t' pos' lt']

/-- A term that is not zero, over the unit behind its guard, has 29 or more digits. -/
theorem exists_long {c : Nat} (h : c ≠ 0) (e : Int) :
    ∃ a : Nat, 10 ^ precision ≤ a ∧ magnitude c e = a * 10 ^ (guardExponent c e + 1) := by
  have digits := pow_digitCount_le h
  have : precision = 28 := rfl
  unfold guardExponent
  split
  next long =>
    refine ⟨c, (Nat.pow_le_pow_right (by decide) (by omega)).trans digits, ?_⟩
    rw [magnitude, show e - 1 + 0 + 1 = e by ring]
  next short =>
    refine ⟨c * 10 ^ (precision + 1 - digitCount c), ?_, ?_⟩
    · calc
        10 ^ precision = 10 ^ (digitCount c - 1) * 10 ^ (precision + 1 - digitCount c) := by
          have := digitCount_pos c
          rw [← Nat.pow_add]
          congr 1
          omega
        _ ≤ c * 10 ^ (precision + 1 - digitCount c) := Nat.mul_le_mul_right _ digits
    · refine Eq.trans ?_ (magnitude_mul_pow ..).symm
      congr 1
      omega

/-- A summand under the guard may be replaced by one unit there. -/
theorem nearest_guard {c : Nat} (h : c ≠ 0) (e : Int) {y : ℚ} (pos : 0 < y)
    (under : y < 10 ^ guardExponent c e) :
    nearest (magnitude c e + y) = nearest (magnitude c e + 10 ^ guardExponent c e) ∧
      nearest (magnitude c e - y) = nearest (magnitude c e - 10 ^ guardExponent c e) := by
  obtain ⟨a, long, value⟩ := exists_long h e
  generalize guardExponent c e = g at under value ⊢
  have ten : (10 : ℚ) ^ (g + 1) = 10 * 10 ^ g := by
    rw [zpow_add₀ (by decide), zpow_one, mul_comm]
  have pos' : (0 : ℚ) < 10 ^ g := by positivity
  have scaled : ∀ z : ℚ, z = z / 10 ^ (g + 1) * 10 ^ (g + 1) := by
    intro z
    field_simp
  have t : 0 < y / 10 ^ (g + 1) ∧ y / 10 ^ (g + 1) < 1 / 2 := by
    refine ⟨by positivity, ?_⟩
    rw [div_lt_iff₀ (by positivity), ten]
    linarith
  have t' : (0 : ℚ) < 10 ^ g / 10 ^ (g + 1) ∧ (10 : ℚ) ^ g / 10 ^ (g + 1) < 1 / 2 := by
    refine ⟨by positivity, ?_⟩
    rw [div_lt_iff₀ (by positivity), ten]
    linarith
  rw [value, scaled y, scaled (10 ^ g), ← add_mul, ← add_mul, ← sub_mul, ← sub_mul]
  exact ⟨nearest_add long _ t.1 (by linarith [t.2]) t'.1 (by linarith [t'.2]),
    nearest_sub long _ t.1 t.2 t'.1 t'.2⟩

theorem guard_lt {c : Nat} (h : c ≠ 0) (e : Int) :
    (10 : ℚ) ^ guardExponent c e < magnitude c e := by
  refine (zpow_lt_zpow_right₀ (by norm_num) ?_).trans_le (zpow_adjusted_le h e)
  have := digitCount_pos c
  have : precision = 28 := rfl
  rw [guardExponent, adjusted]
  split <;> omega

/-- Condensing a summand does not change the rounded sum. -/
theorem rounded_condense {n : Bool} {c : Nat} (h : c ≠ 0) (e : Int) (m : Bool) (d : Nat) (f : Int) :
    rounded (withSign n (magnitude c e) + withSign m (magnitude
        (condense (guardExponent c e) d f).1 (condense (guardExponent c e) d f).2)) =
      rounded (withSign n (magnitude c e) + withSign m (magnitude d f)) := by
  unfold condense
  split
  next under =>
    rcases eq_or_ne d 0 with rfl | hd
    · rw [if_pos rfl, magnitude_zero, magnitude_zero]
    · rw [if_neg hd]
      have unit : magnitude 1 (guardExponent c e) = 10 ^ guardExponent c e := by
        rw [magnitude, Nat.cast_one, one_mul]
      have less : magnitude d f < 10 ^ guardExponent c e :=
        (lt_zpow_adjusted d f).trans_le (zpow_le_zpow_right₀ (by norm_num) under)
      obtain ⟨add, sub⟩ := nearest_guard h e (magnitude_pos hd f) less
      have pos := magnitude_pos h e
      have more := magnitude_pos hd f
      have guard := guard_lt h e
      have guard' : (0 : ℚ) < 10 ^ guardExponent c e := by positivity
      have sum : ∀ z, withSign n (magnitude c e) + withSign m z =
          withSign n (if n = m then magnitude c e + z else magnitude c e - z) := by
        intro z
        cases n <;> cases m <;> simp <;> ring
      rw [unit, sum, sum, rounded_withSign, rounded_withSign]
      split
      · rw [rounded_of_nonneg (by linarith), rounded_of_nonneg (by linarith), add]
      · rw [rounded_of_nonneg (by linarith), rounded_of_nonneg (by linarith), sub]
  next => rfl

/-! ## Sums -/

theorem signed_scaleTo {low e : Int} (h : low ≤ e) (n : Bool) (c : Nat) :
    (signed n (scaleTo low c e) : ℚ) * 10 ^ low = withSign n (magnitude c e) := by
  rw [← magnitude_scaleTo h, magnitude]
  cases n <;> simp [signed]

theorem withSign_natAbs (i : Int) (n : Bool) (e : Int) :
    withSign (if i = 0 then n else decide (i < 0)) (magnitude i.natAbs e) = i * 10 ^ e := by
  rcases lt_trichotomy i 0 with neg | rfl | pos
  · rw [if_neg neg.ne, decide_eq_true neg, withSign_true, magnitude, Nat.cast_natAbs,
      abs_of_neg neg]
    push_cast
    ring
  · rw [Int.natAbs_zero, magnitude_zero, withSign_zero, Int.cast_zero, zero_mul]
  · rw [if_neg pos.ne', decide_eq_false pos.not_gt, withSign_false, magnitude, Nat.cast_natAbs,
      abs_of_pos pos]

theorem addTerms_rounds (n : Bool) (c : Nat) (e : Int) (m : Bool) (d : Nat) (f : Int) :
    Rounds (withSign n (magnitude c e) + withSign m (magnitude d f)) (addTerms n c e m d f) := by
  have exact := roundFinite_rounds
    (if signed n (scaleTo (min e f) c e) + signed m (scaleTo (min e f) d f) = 0 then n && m
      else decide (signed n (scaleTo (min e f) c e) + signed m (scaleTo (min e f) d f) < 0))
    (signed n (scaleTo (min e f) c e) + signed m (scaleTo (min e f) d f)).natAbs (min e f)
  rw [withSign_natAbs, Int.cast_add, add_mul, signed_scaleTo (min_le_left e f),
    signed_scaleTo (min_le_right e f)] at exact
  exact exact

theorem addFinite_rounds (n : Bool) (c : Nat) (e : Int) (m : Bool) (d : Nat) (f : Int) :
    Rounds (withSign n (magnitude c e) + withSign m (magnitude d f)) (addFinite n c e m d f) := by
  unfold addFinite
  split
  · refine (addTerms_rounds ..).congr ?_
    split
    · rfl
    next h => exact rounded_condense h ..
  · refine (addTerms_rounds ..).congr ?_
    split
    · rfl
    next h =>
      rw [add_comm, rounded_condense h, add_comm]

variable {a b : Decimal} (ha : a.isFinite = true) (hb : b.isFinite = true)
include ha hb

/-- The sum is exact, and then rounded once. -/
theorem add_rounds : Rounds (a.value + b.value) (a.add b) := by
  obtain ⟨n, c, e⟩ | _ | _ := a <;> cases ha
  obtain ⟨m, d, f⟩ | _ | _ := b <;> cases hb
  exact addFinite_rounds n c e m d f

/-- The difference is exact, and then rounded once. -/
theorem sub_rounds : Rounds (a.value - b.value) (a.sub b) := by
  obtain ⟨n, c, e⟩ | _ | _ := a <;> cases ha
  obtain ⟨m, d, f⟩ | _ | _ := b <;> cases hb
  have sum := addFinite_rounds n c e (!m) d f
  rw [withSign_not, ← sub_eq_add_neg] at sum
  exact sum

end EventLedger.Decimal
