import Mathlib.Tactic.FieldSimp
import EventLedger.Proofs.DecimalValue

/-!
# Rounding as a function of numbers

`rounded` is the rounding of the arithmetic as a function of rational numbers: to the nearest
multiple of ten to the `lastExponent`, the even one of two (`halfEven`). What `roundFinite` returns
is this function of the value of its argument (`roundFinite_rounds`), whatever coefficient and
exponent the value is written with. `Rounds` says so for any result: it is the decimal of the rounded
number, or an overflow if that number is not below the `limit`.
-/

namespace EventLedger.Decimal

open Text

theorem tenTo_eq (k : Nat) : tenTo k = 10 ^ k := rfl

/-- The whole number nearest to a number, the even one of two. -/
def halfEven (q : ℚ) : ℤ :=
  if 1 / 2 < Int.fract q ∨ (Int.fract q = 1 / 2 ∧ ⌊q⌋ % 2 = 1) then ⌊q⌋ + 1 else ⌊q⌋

@[simp] theorem halfEven_intCast (z : ℤ) : halfEven z = z := by
  simp [halfEven]

@[simp] theorem halfEven_natCast (n : ℕ) : halfEven n = n := by
  exact_mod_cast halfEven_intCast n

theorem halfEven_mono {p q : ℚ} (h : p ≤ q) : halfEven p ≤ halfEven q := by
  have floors := Int.floor_le_floor h
  rcases floors.lt_or_eq with lt | eq
  · have up : halfEven p ≤ ⌊p⌋ + 1 := by unfold halfEven; split_ifs <;> omega
    have down : ⌊q⌋ ≤ halfEven q := by unfold halfEven; split_ifs <;> omega
    omega
  · have fracts : Int.fract p ≤ Int.fract q := by
      rw [Int.fract, Int.fract, eq]
      linarith
    unfold halfEven
    rw [eq]
    split_ifs with hp hq
    · exact le_rfl
    · rcases hp with hp | ⟨hp, odd⟩
      · exact absurd (.inl (hp.trans_le fracts)) hq
      · rcases fracts.lt_or_eq with lt | same
        · exact absurd (.inl (hp ▸ lt)) hq
        · exact absurd (.inr ⟨same ▸ hp, odd⟩) hq
    · omega
    · exact le_rfl

theorem halfEven_le {q : ℚ} {z : ℤ} (h : q ≤ z) : halfEven q ≤ z :=
  (halfEven_mono h).trans_eq (halfEven_intCast z)

theorem le_halfEven {q : ℚ} {z : ℤ} (h : z ≤ q) : z ≤ halfEven q :=
  (halfEven_intCast z).symm.trans_le (halfEven_mono h)

/-- A number is decided by its whole part and by which side of a half its fraction is on. -/
theorem halfEven_eq_of_lt {q : ℚ} {z : ℤ} (low : z ≤ q) (high : q < z + 1 / 2) :
    halfEven q = z := by
  have floor : ⌊q⌋ = z := Int.floor_eq_iff.2 ⟨low, by linarith⟩
  have fract : Int.fract q < 1 / 2 := by rw [Int.fract, floor]; linarith
  unfold halfEven
  rw [if_neg, floor]
  rintro (above | ⟨half, -⟩) <;> linarith

theorem halfEven_eq_of_gt {q : ℚ} {z : ℤ} (low : z + 1 / 2 < q) (high : q < z + 1) :
    halfEven q = z + 1 := by
  have floor : ⌊q⌋ = z := Int.floor_eq_iff.2 ⟨by linarith, high⟩
  have fract : 1 / 2 < Int.fract q := by rw [Int.fract, floor]; linarith
  unfold halfEven
  rw [if_pos (.inl fract), floor]

/-- A number with fewer digits than are dropped is less than one half of the unit. -/
theorem halfEven_of_few {n k : Nat} (few : digitCount n < k) : halfEven (n / 10 ^ k) = 0 := by
  have bound : n < 10 ^ (k - 1) :=
    (lt_pow_digitCount n).trans_le (Nat.pow_le_pow_right (by decide) (by omega))
  have power : (10 : ℚ) ^ k = 10 ^ (k - 1) * 10 := by
    rw [← pow_succ]; congr 1; omega
  have bound' : (n : ℚ) < 10 ^ (k - 1) := by exact_mod_cast bound
  refine halfEven_eq_of_lt (by push_cast; positivity) ?_
  rw [power, div_lt_iff₀ (by positivity)]
  push_cast
  nlinarith

/-- Rounding by what is left of a unit. -/
theorem halfEven_of_rest {unit whole : Nat} {rest : ℚ} (nonneg : 0 ≤ rest) (lt : rest < unit) :
    halfEven (whole + rest / unit) =
      if (unit : ℚ) < 2 * rest ∨ (unit : ℚ) = 2 * rest ∧ whole % 2 = 1 then (whole + 1 : ℤ)
      else whole := by
  have pos : (0 : ℚ) < unit := nonneg.trans_lt lt
  have floor : ⌊(whole + rest / unit : ℚ)⌋ = (whole : ℤ) := by
    refine Int.floor_eq_iff.2 ⟨?_, ?_⟩
    · rw [Int.cast_natCast, le_add_iff_nonneg_right]
      positivity
    · rw [Int.cast_natCast, add_lt_add_iff_left, div_lt_one pos]
      exact lt
  have fract : Int.fract (whole + rest / unit : ℚ) = rest / unit := by
    rw [Int.fract, floor, Int.cast_natCast, add_sub_cancel_left]
  have above : 1 / 2 < rest / unit ↔ unit < 2 * rest := by
    rw [lt_div_iff₀ pos]
    constructor <;> intro <;> linarith
  have half : rest / unit = 1 / 2 ↔ unit = 2 * rest := by
    rw [div_eq_iff pos.ne']
    constructor <;> intro <;> linarith
  have odd : (whole : ℤ) % 2 = 1 ↔ whole % 2 = 1 := by omega
  simp only [halfEven, fract, floor, above, half, odd]

theorem shiftHalfEven_eq (n k : Nat) : (shiftHalfEven n k : ℤ) = halfEven (n / 10 ^ k) := by
  unfold shiftHalfEven
  split
  next few => exact (halfEven_of_few few).symm
  next =>
    have pos : 0 < 10 ^ k := Nat.pow_pos (by decide)
    have rest : ((n % 10 ^ k : Nat) : ℚ) < (10 ^ k : Nat) := by exact_mod_cast Nat.mod_lt n pos
    have parts : ((10 ^ k * (n / 10 ^ k) + n % 10 ^ k : Nat) : ℚ) = n := by rw [Nat.div_add_mod]
    have exact : (n / 10 ^ k : ℚ) = (n / 10 ^ k : Nat) + (n % 10 ^ k : Nat) / (10 ^ k : Nat) := by
      rw [← parts]
      push_cast
      field_simp
    rw [tenTo_eq, exact, halfEven_of_rest (Nat.cast_nonneg _) rest]
    norm_cast

theorem shiftHalfEven_zero (n : Nat) : shiftHalfEven n 0 = n := by
  have exact := shiftHalfEven_eq n 0
  rw [pow_zero, div_one, halfEven_natCast] at exact
  exact_mod_cast exact

/-- The exponent of the last digit that is kept of a positive number. -/
def lastExponent (q : ℚ) : ℤ :=
  max minUnit (Int.log 10 q - (precision - 1 : Nat))

/-- The rounding of a number that is not negative. -/
def nearest (q : ℚ) : ℚ :=
  halfEven (q / 10 ^ lastExponent q) * 10 ^ lastExponent q

/-- The rounding of a number. -/
def rounded (q : ℚ) : ℚ :=
  if q < 0 then -nearest (-q) else nearest q

/-- Rounded numbers are below it. -/
def limit : ℚ :=
  10 ^ (maxExponent + 1)

theorem nearest_nonneg {q : ℚ} (h : 0 ≤ q) : 0 ≤ nearest q := by
  have : (0 : ℤ) ≤ halfEven (q / 10 ^ lastExponent q) := le_halfEven (by push_cast; positivity)
  have : (0 : ℚ) ≤ halfEven (q / 10 ^ lastExponent q) := by exact_mod_cast this
  unfold nearest
  positivity

@[simp] theorem nearest_zero : nearest 0 = 0 := by
  have := halfEven_intCast 0
  push_cast at this
  rw [nearest, zero_div, this, Int.cast_zero, zero_mul]

theorem rounded_of_nonneg {q : ℚ} (h : 0 ≤ q) : rounded q = nearest q :=
  if_neg (not_lt.2 h)

theorem rounded_neg (q : ℚ) : rounded (-q) = -rounded q := by
  rcases lt_trichotomy q 0 with neg | rfl | pos
  · rw [rounded, rounded, if_neg (by linarith), if_pos neg, neg_neg]
  · simp [rounded]
  · rw [rounded, rounded, if_pos (by linarith), if_neg (by linarith), neg_neg]

theorem rounded_withSign (n : Bool) (q : ℚ) : rounded (withSign n q) = withSign n (rounded q) := by
  cases n
  · rfl
  · exact rounded_neg q

theorem abs_rounded (q : ℚ) : |rounded q| = nearest |q| := by
  rcases le_or_gt 0 q with pos | neg
  · rw [rounded_of_nonneg pos, abs_of_nonneg pos, abs_of_nonneg (nearest_nonneg pos)]
  · have pos : 0 ≤ -q := by linarith
    rw [rounded, if_pos neg, abs_neg, abs_of_neg neg, abs_of_nonneg (nearest_nonneg pos)]

/-- A multiple of ten to the last exponent is not rounded. -/
theorem nearest_of_multiple {q : ℚ} {z : ℤ} (h : q = z * 10 ^ lastExponent q) : nearest q = q := by
  have whole : q / 10 ^ lastExponent q = z := by
    rw [div_eq_iff (by positivity)]
    exact h
  rw [nearest, whole, halfEven_intCast]
  exact h.symm

/-- A number whose last digit is not behind the last exponent is not rounded. -/
theorem nearest_magnitude {c : Nat} {e : Int} (h : lastExponent (magnitude c e) ≤ e) :
    nearest (magnitude c e) = magnitude c e := by
  refine @nearest_of_multiple _ (c * 10 ^ (e - lastExponent (magnitude c e)).toNat) ?_
  refine (congrArg _ (zpow_eq_pow_mul h)).trans ?_
  push_cast
  ring

theorem nearest_le_zpow {q : ℚ} {t : ℤ} (h : q ≤ 10 ^ t) (unit : lastExponent q ≤ t) :
    nearest q ≤ 10 ^ t := by
  have power : ((10 ^ (t - lastExponent q).toNat : ℤ) : ℚ) * 10 ^ lastExponent q = 10 ^ t := by
    rw [zpow_eq_pow_mul unit]
    push_cast
    rfl
  have whole : q / 10 ^ lastExponent q ≤ (10 ^ (t - lastExponent q).toNat : ℤ) := by
    rw [div_le_iff₀ (by positivity), power]
    exact h
  have cast : (halfEven (q / 10 ^ lastExponent q) : ℚ) ≤ (10 ^ (t - lastExponent q).toNat : ℤ) := by
    exact_mod_cast halfEven_le whole
  rw [nearest, ← power]
  exact mul_le_mul_of_nonneg_right cast (by positivity)

theorem zpow_le_nearest {q : ℚ} {t : ℤ} (h : 10 ^ t ≤ q) (unit : lastExponent q ≤ t) :
    10 ^ t ≤ nearest q := by
  have power : ((10 ^ (t - lastExponent q).toNat : ℤ) : ℚ) * 10 ^ lastExponent q = 10 ^ t := by
    rw [zpow_eq_pow_mul unit]
    push_cast
    rfl
  have whole : ((10 ^ (t - lastExponent q).toNat : ℤ) : ℚ) ≤ q / 10 ^ lastExponent q := by
    rw [le_div_iff₀ (by positivity), power]
    exact h
  have cast : ((10 ^ (t - lastExponent q).toNat : ℤ) : ℚ) ≤ halfEven (q / 10 ^ lastExponent q) := by
    exact_mod_cast le_halfEven whole
  rw [nearest, ← power]
  exact mul_le_mul_of_nonneg_right cast (by positivity)

/-! ## The rounding of decimals -/

/-- The results for an exact number: the decimal of the rounded number, or an overflow. -/
inductive Rounds (q : ℚ) : Except Signal Decimal → Prop
  | number {n : Bool} {c : Nat} {e : Int} (value : withSign n (magnitude c e) = rounded q)
    (digits : c < 10 ^ precision) (unit : minUnit ≤ e) (small : magnitude c e < limit) :
    Rounds q (.ok (.finite n c e))
  | overflow (large : limit ≤ |rounded q|) : Rounds q (.error .overflow)

theorem Rounds.congr {p q : ℚ} {r : Except Signal Decimal} (h : Rounds p r)
    (same : rounded p = rounded q) : Rounds q r := by
  cases h with
  | number value digits unit small => exact .number (value.trans same) digits unit small
  | overflow large => exact .overflow (same ▸ large)

/-- Two results that are equal as numbers, or the same signal. -/
inductive Agree : Except Signal Decimal → Except Signal Decimal → Prop
  | number {a b : Decimal} (left : a.isFinite = true) (right : b.isFinite = true)
    (same : a.value = b.value) : Agree (.ok a) (.ok b)
  | signal (s : Signal) : Agree (.error s) (.error s)

theorem abs_rounded_lt {q : ℚ} {n : Bool} {c : Nat} {e : Int}
    (value : withSign n (magnitude c e) = rounded q) (small : magnitude c e < limit) :
    |rounded q| < limit := by
  rw [← value, abs_withSign_magnitude]
  exact small

/-- The result is determined by the exact number. -/
theorem Rounds.agree {q : ℚ} {r r' : Except Signal Decimal} (h : Rounds q r) (h' : Rounds q r') :
    Agree r r' := by
  cases h with
  | number value digits unit small =>
    cases h' with
    | number value' => exact .number rfl rfl (value.trans value'.symm)
    | overflow large => exact absurd large (not_le.2 (abs_rounded_lt value small))
  | overflow large =>
    cases h' with
    | number value digits unit small =>
      exact absurd large (not_le.2 (abs_rounded_lt value small))
    | overflow => exact .signal _

theorem magnitude_shiftHalfEven {c : Nat} (h : c ≠ 0) (e : Int) :
    magnitude (shiftHalfEven c (roundingUnit c e - e).toNat) (roundingUnit c e) =
      nearest (magnitude c e) := by
  have last : lastExponent (magnitude c e) = max minUnit (adjusted c e - (precision - 1 : Nat)) := by
    rw [lastExponent, log_magnitude h]
  have unit : roundingUnit c e = max e (lastExponent (magnitude c e)) := by rw [roundingUnit, last]
  rcases le_total e (lastExponent (magnitude c e)) with kept | longer
  · rw [unit, max_eq_right kept, nearest]
    have shifted : magnitude c e / 10 ^ lastExponent (magnitude c e) =
        c / 10 ^ (lastExponent (magnitude c e) - e).toNat := by
      have power := zpow_eq_pow_mul kept
      generalize lastExponent (magnitude c e) = u at power ⊢
      rw [power, magnitude]
      field_simp
    rw [shifted, ← shiftHalfEven_eq, magnitude, Int.cast_natCast]
  · rw [unit, max_eq_left longer, sub_self, Int.toNat_zero, shiftHalfEven_zero,
      nearest_magnitude longer]

theorem lt_limit_of_adjusted_lt {c : Nat} {e : Int} (h : adjusted c e ≤ maxExponent) :
    magnitude c e < limit :=
  (lt_zpow_adjusted c e).trans_le (zpow_le_zpow_right₀ (by norm_num) (by omega))

theorem lastExponent_magnitude {c : Nat} (h : c ≠ 0) (e : Int) :
    lastExponent (magnitude c e) = max minUnit (adjusted c e - (precision - 1 : Nat)) := by
  rw [lastExponent, log_magnitude h]

theorem magnitude_pow (k : Nat) (e : Int) : magnitude (10 ^ k) e = 10 ^ (e + k) := by
  have power := magnitude_mul_pow 1 k e
  rw [one_mul] at power
  rw [power, magnitude, Nat.cast_one, one_mul]

/-- The rounded coefficient has at most 28 digits, or is the least one with 29. -/
theorem shiftHalfEven_le {c : Nat} (h : c ≠ 0) (e : Int) :
    shiftHalfEven c (roundingUnit c e - e).toNat ≤ 10 ^ precision := by
  have unit : adjusted c e + 1 ≤ roundingUnit c e + precision := by
    rw [roundingUnit]
    have : precision = 28 := rfl
    omega
  have last : lastExponent (magnitude c e) ≤ roundingUnit c e := by
    rw [lastExponent_magnitude h, roundingUnit]
    exact le_max_right ..
  have bound : nearest (magnitude c e) ≤ 10 ^ (roundingUnit c e + precision) :=
    nearest_le_zpow ((lt_zpow_adjusted c e).le.trans (zpow_le_zpow_right₀ (by norm_num) unit))
      (by omega)
  by_contra more
  rw [← magnitude_shiftHalfEven h, ← magnitude_pow] at bound
  exact absurd (magnitude_lt_magnitude.2 (not_le.1 more)) (not_lt.2 bound)

theorem withSign_nearest (n : Bool) (c : Nat) (e : Int) :
    withSign n (nearest (magnitude c e)) = rounded (withSign n (magnitude c e)) := by
  rw [rounded_withSign, rounded_of_nonneg (magnitude_nonneg c e)]

theorem abs_rounded_magnitude (n : Bool) (c : Nat) (e : Int) :
    |rounded (withSign n (magnitude c e))| = nearest (magnitude c e) := by
  rw [abs_rounded, abs_withSign_magnitude]

/-- A number whose leading digit is out of range is rounded to one that is too large. -/
theorem limit_le_nearest {c : Nat} (h : c ≠ 0) {e : Int} (large : maxExponent < adjusted c e) :
    limit ≤ nearest (magnitude c e) := by
  have tops : minUnit ≤ maxExponent := by decide
  refine le_trans (zpow_le_zpow_right₀ (by norm_num) large)
    (zpow_le_nearest (zpow_adjusted_le h e) ?_)
  rw [lastExponent_magnitude h]
  omega

/-- Digits that do not carry keep the number within range. -/
theorem magnitude_shift_lt_limit {c : Nat} {e : Int} (fits : adjusted c e ≤ maxExponent)
    (fewer : shiftHalfEven c (roundingUnit c e - e).toNat < 10 ^ precision) :
    magnitude (shiftHalfEven c (roundingUnit c e - e).toNat) (roundingUnit c e) < limit := by
  have tops : minUnit + 28 ≤ maxExponent ∧ precision = 28 := ⟨by decide, rfl⟩
  rcases le_or_gt (roundingUnit c e + precision) (maxExponent + 1) with unit | unit
  · refine (magnitude_lt_magnitude.2 fewer).trans_le ?_
    rw [magnitude_pow]
    exact zpow_le_zpow_right₀ (by norm_num) unit
  · have own : roundingUnit c e = e := by
      rw [roundingUnit] at unit ⊢
      omega
    rw [own, sub_self, Int.toNat_zero, shiftHalfEven_zero]
    exact lt_limit_of_adjusted_lt fits

/-- Digits that carry to one more digit are those of a power of ten. -/
theorem carried_rounds (n : Bool) {c : Nat} {e unit : Int} (low : minUnit ≤ unit)
    (full : nearest (magnitude c e) = 10 ^ (unit + precision)) :
    Rounds (withSign n (magnitude c e))
      (if maxExponent < unit + precision then .error .overflow
        else .ok (.finite n (10 ^ (precision - 1)) (unit + 1))) := by
  have digits : precision = 28 := rfl
  have same : magnitude (10 ^ (precision - 1)) (unit + 1) = 10 ^ (unit + precision) := by
    rw [magnitude_pow]
    congr 1
    omega
  split
  next large =>
    refine .overflow ?_
    rw [abs_rounded_magnitude, full]
    exact zpow_le_zpow_right₀ (by norm_num) (by omega)
  next small =>
    refine .number ?_ (Nat.pow_lt_pow_right (by decide) (by omega)) (by omega) ?_
    · rw [same, ← full, withSign_nearest]
    · rw [same]
      exact zpow_lt_zpow_right₀ (by norm_num) (by omega)

/-- Rounding depends on the value only. -/
theorem roundFinite_rounds (n : Bool) (c : Nat) (e : Int) :
    Rounds (withSign n (magnitude c e)) (roundFinite n c e) := by
  unfold roundFinite
  split
  next zero =>
    have range : minUnit ≤ maxExponent := by decide
    rw [zero, magnitude_zero, withSign_zero]
    refine .number ?_ (by positivity) (by omega) ?_
    · rw [magnitude_zero, withSign_zero, rounded_of_nonneg le_rfl, nearest_zero]
    · rw [magnitude_zero, limit]; positivity
  next h =>
  have value := magnitude_shiftHalfEven h e
  have low : minUnit ≤ roundingUnit c e := by rw [roundingUnit]; omega
  split
  next large =>
    refine .overflow ?_
    rw [abs_rounded_magnitude]
    exact limit_le_nearest h large
  next fits =>
    dsimp only
    rw [tenTo_eq, tenTo_eq]
    split
    next full =>
      refine carried_rounds n low ?_
      rw [← value, full, magnitude_pow]
    next short =>
      have fewer := lt_of_le_of_ne (shiftHalfEven_le h e) short
      exact .number (by rw [value, withSign_nearest]) fewer low
        (magnitude_shift_lt_limit (not_lt.1 fits) fewer)

/-! ## Numbers that need no rounding -/

/-- The numbers that a decimal with 28 digits and exponents within range can denote. -/
def Fits (q : ℚ) : Prop :=
  ∃ n c e, q = withSign n (magnitude c e) ∧ c < 10 ^ precision ∧ minUnit ≤ e ∧ magnitude c e < limit

theorem fits_zero : Fits 0 :=
  ⟨false, 0, 0, by simp, by decide, by decide, by rw [magnitude_zero, limit]; positivity⟩

theorem Fits.rounded_eq {q : ℚ} (h : Fits q) : rounded q = q := by
  obtain ⟨n, c, e, rfl, digits, unit, -⟩ := h
  rw [rounded_withSign, rounded_of_nonneg (magnitude_nonneg c e)]
  by_cases zero : c = 0
  · rw [zero, magnitude_zero, nearest_zero]
  · have short := (digitCount_le_iff (by decide : 0 < precision)).2 digits
    rw [nearest_magnitude]
    rw [lastExponent_magnitude zero, adjusted]
    omega

theorem Fits.abs_lt {q : ℚ} (h : Fits q) : |q| < limit := by
  obtain ⟨n, c, e, rfl, -, -, small⟩ := h
  rw [abs_withSign_magnitude]
  exact small

/-- What was rounded fits. -/
theorem Rounds.fits {q : ℚ} {a : Decimal} (h : Rounds q (.ok a)) :
    a.isFinite = true ∧ Fits a.value := by
  cases h with
  | number value digits unit small => exact ⟨rfl, _, _, _, rfl, digits, unit, small⟩

/-- A number that fits is the result of its rounding. -/
theorem Rounds.of_fits {q : ℚ} {r : Except Signal Decimal} (h : Rounds q r) (fits : Fits q) :
    ∃ a, r = .ok a ∧ a.isFinite = true ∧ a.value = q := by
  cases h with
  | number value => exact ⟨_, rfl, rfl, value.trans fits.rounded_eq⟩
  | overflow large => exact absurd (fits.rounded_eq ▸ large) (not_le.2 fits.abs_lt)

end EventLedger.Decimal
