import EventLedger.Proofs.Decisions

/-!
# Overdrafts

Whether a balance covers an amount is decided by the sign of a difference that was rounded. Rounding
makes a number zero only at the very bottom of the range, at no more than half of the least unit
(`nearest_eq_zero_iff`), and never changes a sign (`rounded_nonneg_iff`). So a balance covers an
amount exactly if the amount exceeds it by no more than that, and by nothing at all if both are
whole numbers of least units; and what is left is never negative (`canWithdraw_iff_covered`).
-/

namespace EventLedger

namespace Decimal

/-- Half of the least unit, 5 · 10 ^ -1000027. -/
def halfUnit : ℚ :=
  5 * 10 ^ (minUnit - 1)

/-- A whole number of least units: no digit stands below 10 ^ -1000026. -/
def WholeUnits (q : ℚ) : Prop :=
  ∃ z : ℤ, q = z * 10 ^ minUnit

theorem halfUnit_eq : halfUnit = 1 / 2 * 10 ^ minUnit := by
  have ten : (10 : ℚ) ^ minUnit = 10 * 10 ^ (minUnit - 1) := by
    rw [← zpow_one_add₀ (by decide)]
    congr 1
  rw [halfUnit, ten]
  ring

theorem halfUnit_pos : 0 < halfUnit := by
  unfold halfUnit; positivity

theorem wholeUnits_of_exponent (n : Bool) (c : Nat) {e : Int} (h : minUnit ≤ e) :
    WholeUnits (finite n c e).value := by
  refine ⟨if n then -(c * 10 ^ (e - minUnit).toNat) else c * 10 ^ (e - minUnit).toNat, ?_⟩
  rw [value_finite, magnitude, zpow_eq_pow_mul h]
  cases n
  · simp only [withSign_false, if_neg Bool.false_ne_true]
    push_cast
    ring
  · simp only [withSign_true, if_pos]
    push_cast
    ring

theorem halfEven_eq_zero_iff {q : ℚ} (nonneg : 0 ≤ q) : halfEven q = 0 ↔ q ≤ 1 / 2 := by
  rcases lt_trichotomy q (1 / 2) with below | rfl | above
  · refine iff_of_true (halfEven_eq_of_lt ?_ ?_) below.le
    · exact_mod_cast nonneg
    · push_cast; linarith
  · -- the half itself goes to the even neighbour, which is zero
    have floor : ⌊(1 / 2 : ℚ)⌋ = 0 := Int.floor_eq_iff.2 ⟨by norm_num, by norm_num⟩
    refine iff_of_true ?_ le_rfl
    rw [halfEven, floor, if_neg (by rw [Int.fract, floor]; norm_num)]
  · refine iff_of_false (fun zero => ?_) (not_le.2 above)
    rcases lt_or_ge q 1 with small | large
    · have one : halfEven q = 0 + 1 :=
        halfEven_eq_of_gt (by push_cast; linarith) (by push_cast; linarith)
      omega
    · have one : 1 ≤ halfEven q := le_halfEven (by exact_mod_cast large)
      omega

/-- The last digit that is kept of a number stands at the least unit, or the number has digits in
front of it. -/
theorem lastExponent_cases {q : ℚ} (pos : 0 < q) :
    lastExponent q = minUnit ∨ 10 ^ lastExponent q ≤ q := by
  rcases le_total (Int.log 10 q - (precision - 1 : Nat)) minUnit with low | high
  · exact .inl (max_eq_left low)
  · have front : lastExponent q ≤ Int.log 10 q := by
      rw [lastExponent, max_eq_right high]
      exact Int.sub_le_self _ (Int.natCast_nonneg _)
    exact .inr ((zpow_le_zpow_right₀ (by norm_num) front).trans
      (Int.zpow_log_le_self (by decide) pos))

/-- Rounded to zero is what does not exceed half of the least unit. -/
theorem nearest_eq_zero_iff {q : ℚ} (nonneg : 0 ≤ q) : nearest q = 0 ↔ q ≤ halfUnit := by
  rcases nonneg.eq_or_lt with rfl | pos
  · exact iff_of_true nearest_zero halfUnit_pos.le
  have unit : (0 : ℚ) < 10 ^ lastExponent q := by positivity
  have whole : nearest q = 0 ↔ q / 10 ^ lastExponent q ≤ 1 / 2 := by
    rw [nearest, mul_eq_zero_iff_right unit.ne', Int.cast_eq_zero,
      halfEven_eq_zero_iff (div_nonneg nonneg unit.le)]
  rw [whole, div_le_iff₀ unit]
  rcases lastExponent_cases pos with least | front
  · rw [least, halfUnit_eq]
  · have low : (10 : ℚ) ^ minUnit ≤ 10 ^ lastExponent q :=
      zpow_le_zpow_right₀ (by norm_num) (le_max_left ..)
    have least : (0 : ℚ) < 10 ^ minUnit := by positivity
    rw [halfUnit_eq]
    exact iff_of_false (by linarith) (by linarith)

/-- Rounding changes no sign, except that what is rounded to zero has none. -/
theorem rounded_nonneg_iff {q : ℚ} : 0 ≤ rounded q ↔ -q ≤ halfUnit := by
  rcases le_or_gt 0 q with nonneg | neg
  · have := halfUnit_pos
    rw [rounded_of_nonneg nonneg]
    exact iff_of_true (nearest_nonneg nonneg) (by linarith)
  · have pos : 0 ≤ -q := by linarith
    rw [rounded, if_pos neg, neg_nonneg, ← nearest_eq_zero_iff pos]
    exact (nearest_nonneg pos).ge_iff_eq'

/-- Among whole numbers of least units nothing is rounded to zero but zero. -/
theorem sub_le_halfUnit_iff {p q : ℚ} (hp : WholeUnits p) (hq : WholeUnits q) :
    p - q ≤ halfUnit ↔ p ≤ q := by
  obtain ⟨z, rfl⟩ := hp
  obtain ⟨w, rfl⟩ := hq
  have unit : (0 : ℚ) < 10 ^ minUnit := by positivity
  rw [halfUnit_eq, ← sub_mul, mul_le_mul_iff_left₀ unit, mul_le_mul_iff_left₀ unit, Int.cast_le]
  constructor
  · intro half
    by_contra more
    have one : (w + 1 : ℚ) ≤ z := by exact_mod_cast not_le.1 more
    linarith
  · intro le
    have le' : (z : ℚ) ≤ w := by exact_mod_cast le
    linarith

end Decimal

namespace Account

open Decimal (halfUnit WholeUnits)

variable {b : Balance} {a : Amount}

/-- If the difference does not overflow, a balance covers an amount exactly if the amount exceeds it
by no more than half of the least unit; with no digits below the least unit, exactly if it does not
exceed it. A withdrawal that is covered is folded, and the new balance is the rounded difference and
not negative. -/
theorem canWithdraw_iff_covered (holds : b.value.isFinite = true) (moves : a.value.isFinite = true)
    (bounded : b.value.sub a.value ≠ .error .overflow) :
    ∃ covered, b.canWithdraw a.value = .ok covered ∧
      (covered = true ↔ a.value.value - b.value.value ≤ halfUnit) ∧
      (WholeUnits b.value.value → WholeUnits a.value.value →
        (covered = true ↔ a.value.value ≤ b.value.value)) ∧
      (covered = true → ∃ b' : Balance,
        applier.apply (.opened b) (.withdrawn a) = .ok (.opened b') ∧ b'.value.isFinite = true ∧
          b'.value.value = Decimal.rounded (b.value.value - a.value.value) ∧
          0 ≤ b'.value.value) := by
  obtain ⟨decided, left⟩ := covered_of_rounds (Decimal.sub_rounds holds moves) bounded
  have covers : 0 ≤ Decimal.rounded (b.value.value - a.value.value) ↔
      a.value.value - b.value.value ≤ halfUnit := by
    rw [Decimal.rounded_nonneg_iff, neg_sub]
  refine ⟨_, decided, decide_eq_true_iff.trans covers, fun ofBalance ofAmount => ?_,
    fun covered => ?_⟩
  · rw [decide_eq_true_iff, covers, Decimal.sub_le_halfUnit_iff ofAmount ofBalance]
  · have nonneg := of_decide_eq_true covered
    obtain ⟨b', lowered, finite, value⟩ := left nonneg
    rw [covered] at decided
    exact ⟨b', apply_withdrawn decided lowered, finite, value, value ▸ nonneg⟩

/-- `canWithdraw_iff_covered` for an account without money: it covers half of the least unit, but
not the least unit. -/
theorem canWithdraw_iff_covered_half :
    let half : Amount := ⟨.finite false 5 (-1000027), by decide +kernel⟩
    let least : Amount := ⟨.finite false 1 (-1000026), by decide +kernel⟩
    Balance.zero.canWithdraw half.value = .ok true ∧
      (∃ b' : Balance, applier.apply (.opened .zero) (.withdrawn half) = .ok (.opened b') ∧
        0 ≤ b'.value.value) ∧
      WholeUnits Balance.zero.value.value ∧ WholeUnits least.value.value ∧
      Balance.zero.canWithdraw least.value = .ok false := by
  intro half least
  have nothing : Balance.zero.value.value = 0 := Decimal.value_zero
  have wholes : WholeUnits Balance.zero.value.value ∧ WholeUnits least.value.value :=
    ⟨Decimal.wholeUnits_of_exponent false 0 (by decide),
      Decimal.wholeUnits_of_exponent false 1 le_rfl⟩
  obtain ⟨covered, decided, covers, -, left⟩ :=
    canWithdraw_iff_covered (b := Balance.zero) (a := half) rfl rfl (by decide +kernel)
  obtain ⟨covered', decided', -, covers', -⟩ :=
    canWithdraw_iff_covered (b := Balance.zero) (a := least) rfl rfl (by decide +kernel)
  have tie : half.value.value - Balance.zero.value.value ≤ halfUnit := by
    have amount : half.value.value = halfUnit := congrArg (· * (10 : ℚ) ^ (Decimal.minUnit - 1))
      (Nat.cast_ofNat : ((5 : Nat) : ℚ) = 5)
    rw [amount, nothing, sub_zero]
  have more : ¬ least.value.value ≤ Balance.zero.value.value :=
    nothing ▸ not_le.2 (Amount.value_pos (a := least) rfl)
  obtain ⟨b', folded, -, -, nonneg⟩ := left (covers.2 tie)
  have short : covered' = false :=
    Bool.eq_false_iff.2 fun covered => more ((covers' wholes.1 wholes.2).1 covered)
  exact ⟨covers.2 tie ▸ decided, ⟨b', folded, nonneg⟩, wholes.1, wholes.2, short ▸ decided'⟩

end Account

end EventLedger
