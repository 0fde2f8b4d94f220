import EventLedger.Double.Basic
import EventLedger.Proofs.DecimalRounding

/-!
# Rounding to doubles

A double `Attracts` the numbers that lie nearer to it than to the doubles next to it, and the ones in
the middle if its significand is even. These are rounded to it (`ofRatio_of_attracts`), whatever
fraction they are written as. Results of arithmetic are doubles of the format (`Valid`), and these
are exact: `valid_add`.
-/

namespace EventLedger.Double

open Decimal (halfEven tenTo_eq magnitude)

theorem twoTo_eq (k : Nat) : twoTo k = 2 ^ k := rfl

/-- A positive number of the format: as many bits as its exponent asks for. -/
structure Normal (significand : Nat) (exponent : Int) : Prop where
  pos : significand ≠ 0
  short : significand < 2 ^ 53
  full : 2 ^ 52 ≤ significand ∨ exponent = minUnit
  low : minUnit ≤ exponent
  high : exponent ≤ 971

/-- A double of the format. -/
inductive Valid : Double → Prop
  | nan : Valid .nan
  | infinite (negative : Bool) : Valid (.infinite negative)
  | zero (negative : Bool) : Valid (.zero negative)
  | finite (negative : Bool) {significand : Nat} {exponent : Int}
    (normal : Normal significand exponent) : Valid (.finite negative significand exponent)

/-- A whole number is the nearest one to everything less than a half away, and, if it is even, to
everything a half away. -/
theorem halfEven_eq_of_near {x : ℚ} {z : ℤ} (low : (z : ℚ) - 1 / 2 ≤ x) (high : x ≤ z + 1 / 2)
    (odd : z % 2 = 1 → (z : ℚ) - 1 / 2 < x ∧ x < z + 1 / 2) : halfEven x = z := by
  rcases lt_or_ge x z with below | above
  · rcases low.lt_or_eq with inside | edge
    · have shifted := Decimal.halfEven_eq_of_gt (z := z - 1) (q := x)
        (by push_cast; linarith) (by push_cast; linarith)
      rw [shifted, Int.sub_add_cancel]
    · have floor : ⌊x⌋ = z - 1 := Int.floor_eq_iff.2 ⟨by push_cast; linarith, by push_cast; linarith⟩
      have fract : Int.fract x = 1 / 2 := by
        rw [Int.fract, floor]
        push_cast
        linarith
      have even : ¬ z % 2 = 1 := fun h => absurd (odd h).1 (by linarith)
      rw [halfEven, fract, floor, if_pos (.inr ⟨rfl, by omega⟩), Int.sub_add_cancel]
  · rcases high.lt_or_eq with inside | edge
    · exact Decimal.halfEven_eq_of_lt above inside
    · have floor : ⌊x⌋ = z := Int.floor_eq_iff.2 ⟨above, by linarith⟩
      have fract : Int.fract x = 1 / 2 := by
        rw [Int.fract, floor]
        linarith
      have even : ¬ z % 2 = 1 := fun h => absurd (odd h).2 (by linarith)
      rw [halfEven, fract, floor, if_neg]
      rintro (half | ⟨-, h⟩)
      · exact absurd half (lt_irrefl _)
      · exact even h

theorem roundDiv_eq {num den : Nat} (pos : 0 < den) : (roundDiv num den : ℤ) = halfEven (num / den) := by
  have rest : ((num % den : Nat) : ℚ) < den := by exact_mod_cast Nat.mod_lt num pos
  have parts : ((den * (num / den) + num % den : Nat) : ℚ) = num := by rw [Nat.div_add_mod]
  have exact : (num / den : ℚ) = (num / den : Nat) + (num % den : Nat) / den := by
    have ne : (den : ℚ) ≠ 0 := by exact_mod_cast pos.ne'
    rw [← parts]
    push_cast
    field_simp
  rw [exact, Decimal.halfEven_of_rest (Nat.cast_nonneg _) rest]
  unfold roundDiv
  norm_cast

/-- A power of two as a fraction. -/
theorem twoTo_toNat (k : ℤ) : (twoTo k.toNat : ℚ) = 2 ^ k * twoTo (-k).toNat := by
  rw [twoTo_eq, twoTo_eq]
  push_cast
  rw [← zpow_natCast, ← zpow_natCast, ← zpow_add₀ two_ne_zero]
  congr 1
  omega

theorem div_twoTo (num den : Nat) (k : ℤ) :
    ((num * twoTo (-k).toNat : Nat) : ℚ) / (den * twoTo k.toNat : Nat) = num / den / 2 ^ k := by
  have pos : (0 : ℚ) < twoTo (-k).toNat := by exact_mod_cast twoTo_pos _
  push_cast
  rw [twoTo_toNat k]
  field_simp

/-- The leading bit of a fraction. -/
theorem leadingExponent_spec {num den : Nat} (hn : num ≠ 0) (hd : den ≠ 0) :
    (2 : ℚ) ^ leadingExponent num den ≤ num / den ∧
      (num / den : ℚ) < 2 ^ (leadingExponent num den + 1) := by
  have den' : (0 : ℚ) < den := by exact_mod_cast Nat.pos_of_ne_zero hd
  have n_low : ((2 : ℚ) ^ (num.log2 : ℤ)) ≤ num := by
    rw [zpow_natCast]; exact_mod_cast Nat.log2_self_le hn
  have n_high : (num : ℚ) < 2 ^ (num.log2 + 1 : ℤ) := by
    have := Nat.lt_log2_self (n := num)
    exact_mod_cast this
  have d_low : ((2 : ℚ) ^ (den.log2 : ℤ)) ≤ den := by
    rw [zpow_natCast]; exact_mod_cast Nat.log2_self_le hd
  have d_high : (den : ℚ) < 2 ^ (den.log2 + 1 : ℤ) := by
    have := Nat.lt_log2_self (n := den)
    exact_mod_cast this
  set guess : ℤ := (num.log2 : ℤ) - den.log2 with hguess
  have below : (num / den : ℚ) < 2 ^ (guess + 1) := by
    rw [div_lt_iff₀ den']
    calc (num : ℚ) < 2 ^ (num.log2 + 1 : ℤ) := n_high
      _ = 2 ^ (guess + 1) * 2 ^ (den.log2 : ℤ) := by
        rw [← zpow_add₀ two_ne_zero]; congr 1; omega
      _ ≤ 2 ^ (guess + 1) * den := by gcongr
  have above : (2 : ℚ) ^ (guess - 1) ≤ num / den := by
    rw [le_div_iff₀ den']
    calc (2 : ℚ) ^ (guess - 1) * den ≤ 2 ^ (guess - 1) * 2 ^ (den.log2 + 1 : ℤ) := by gcongr
      _ = 2 ^ (num.log2 : ℤ) := by rw [← zpow_add₀ two_ne_zero]; congr 1; omega
      _ ≤ num := n_low
  have decided : den * twoTo guess.toNat ≤ num * twoTo (-guess).toNat ↔
      (2 : ℚ) ^ guess ≤ num / den := by
    have pos : (0 : ℚ) < twoTo (-guess).toNat := by exact_mod_cast twoTo_pos _
    rw [le_div_iff₀ den', ← Nat.cast_le (α := ℚ)]
    push_cast
    rw [twoTo_toNat guess, ← mul_assoc, mul_le_mul_iff_of_pos_right pos, mul_comm]
  unfold leadingExponent
  dsimp only
  rw [← hguess]
  split
  next h => exact ⟨decided.1 h, below⟩
  next h =>
    rw [Int.sub_add_cancel]
    exact ⟨above, not_le.1 fun h' => h (decided.2 h')⟩

/-- The unit of a number with 53 bits, or with fewer if it is small. -/
theorem unit_eq {num den : Nat} (hn : num ≠ 0) (hd : den ≠ 0) {e : ℤ} (low : minUnit ≤ e)
    (full : (2 : ℚ) ^ 52 * 2 ^ e ≤ num / den ∨ e = minUnit)
    (short : (num / den : ℚ) < 2 ^ 53 * 2 ^ e) :
    max minUnit (leadingExponent num den - (precision - 1 : Nat)) = e := by
  obtain ⟨lower, upper⟩ := leadingExponent_spec hn hd
  have bits : ((precision - 1 : Nat) : ℤ) = 52 := rfl
  have power : ∀ k : Nat, (2 : ℚ) ^ k * 2 ^ e = 2 ^ (k + e) := fun k => by
    rw [zpow_add₀ two_ne_zero, zpow_natCast]
  rw [power] at full short
  have above : leadingExponent num den < (53 : Nat) + e :=
    (zpow_lt_zpow_iff_right₀ one_lt_two).1 (lower.trans_lt short)
  rcases full with full | least
  · have below : ((52 : Nat) : ℤ) + e < leadingExponent num den + 1 :=
      (zpow_lt_zpow_iff_right₀ one_lt_two).1 (full.trans_lt upper)
    omega
  · omega

theorem ofRatio_eq (negative : Bool) {num den : Nat} (hn : num ≠ 0) (hd : den ≠ 0) {u : ℤ}
    (unit : max minUnit (leadingExponent num den - (precision - 1 : Nat)) = u) {r : Nat}
    (rounds : halfEven (num / den / 2 ^ u) = r) :
    ofRatio negative num den =
      if r = 2 ^ 53 then
        if 971 < u + 1 then .infinite negative else .finite negative (2 ^ 52) (u + 1)
      else if 971 < u then .infinite negative else .finite negative r u := by
  have pos : 0 < den * twoTo u.toNat := Nat.mul_pos (Nat.pos_of_ne_zero hd) (twoTo_pos _)
  have rounded : roundDiv (num * twoTo (-u).toNat) (den * twoTo u.toNat) = r := by
    have exact := @roundDiv_eq (num * twoTo (-u).toNat) _ pos
    rw [div_twoTo, rounds] at exact
    exact_mod_cast exact
  unfold ofRatio
  rw [if_neg hn]
  dsimp only
  rw [unit, rounded]
  have carry : twoTo precision = 2 ^ 53 := rfl
  rw [carry]
  split <;> rfl

/-- How far below a double the numbers lie that are rounded to it, in units of its last bit. Below a
power of two the next double is only half as far away. -/
def reach (significand : Nat) (exponent : Int) : ℚ :=
  if significand = 2 ^ 52 ∧ minUnit < exponent then 1 / 4 else 1 / 2

/-- The number lies nearer to the double than to any other, or in the middle between two if the
significand is even. -/
structure Attracts (m : Nat) (e : Int) (q : ℚ) : Prop where
  low : (m - reach m e) * 2 ^ e ≤ q
  high : q ≤ (m + 1 / 2) * 2 ^ e
  odd : m % 2 = 1 → (m - reach m e) * 2 ^ e < q ∧ q < (m + 1 / 2) * 2 ^ e

theorem reach_cases (m : Nat) (e : Int) :
    (m = 2 ^ 52 ∧ minUnit < e ∧ reach m e = 1 / 4) ∨ reach m e = 1 / 2 := by
  unfold reach
  split
  next h => exact .inl ⟨h.1, h.2, rfl⟩
  next => exact .inr rfl

section

variable {m : Nat} {e : Int} {q : ℚ}

theorem Attracts.pos (h : Attracts m e q) (ne : m ≠ 0) : 0 < q := by
  have one : (1 : ℚ) ≤ m := by exact_mod_cast Nat.pos_of_ne_zero ne
  have unit : (0 : ℚ) < 2 ^ e := zpow_pos two_pos e
  refine lt_of_lt_of_le (mul_pos ?_ unit) h.low
  rcases reach_cases m e with ⟨-, -, r⟩ | r <;> rw [r] <;> linarith

theorem Attracts.lt (h : Attracts m e q) (short : m < 2 ^ 53) : q < 2 ^ 53 * 2 ^ e := by
  have unit : (0 : ℚ) < 2 ^ e := zpow_pos two_pos e
  have most : (m : ℚ) + 1 ≤ 2 ^ 53 := by exact_mod_cast short
  calc q ≤ (m + 1 / 2) * 2 ^ e := h.high
    _ < 2 ^ 53 * 2 ^ e := by gcongr; linarith

/-- A number that is attracted from where the unit is that of the double. -/
theorem Attracts.halfEven (h : Attracts m e q) (full : (2 : ℚ) ^ 52 * 2 ^ e ≤ q ∨ e = minUnit) :
    halfEven (q / 2 ^ e) = m := by
  have unit : (0 : ℚ) < 2 ^ e := zpow_pos two_pos e
  have high : q / 2 ^ e ≤ m + 1 / 2 := (div_le_iff₀ unit).2 h.high
  rcases reach_cases m e with ⟨power, above, -⟩ | r
  · have full' : (2 : ℚ) ^ 52 ≤ q / 2 ^ e := by
      rw [le_div_iff₀ unit]
      exact full.resolve_right (by omega)
    have even : ¬ (m : ℤ) % 2 = 1 := by rw [power]; decide
    refine halfEven_eq_of_near ?_ (by exact_mod_cast high) fun odd => absurd odd even
    rw [power]
    push_cast
    linarith
  · have low := h.low
    rw [r, ← le_div_iff₀ unit] at low
    refine halfEven_eq_of_near (by exact_mod_cast low) (by exact_mod_cast high) fun odd => ?_
    obtain ⟨low, high⟩ := h.odd (by omega)
    rw [r, ← lt_div_iff₀ unit] at low
    rw [← div_lt_iff₀ unit] at high
    exact ⟨by exact_mod_cast low, by exact_mod_cast high⟩

/-- A number just below a power of two is carried up to it. -/
theorem Attracts.carried (h : Attracts m e q) (normal : Normal m e)
    (below : q < 2 ^ 52 * 2 ^ e) (small : minUnit < e) :
    m = 2 ^ 52 ∧ (2 : ℚ) ^ 52 * 2 ^ (e - 1) ≤ q ∧ q < 2 ^ 53 * 2 ^ (e - 1) ∧
      Decimal.halfEven (q / 2 ^ (e - 1)) = (2 ^ 53 : Nat) := by
  have unit : (0 : ℚ) < 2 ^ (e - 1) := zpow_pos two_pos _
  have double : (2 : ℚ) ^ e = 2 * 2 ^ (e - 1) := by
    rw [← zpow_one_add₀ two_ne_zero]
    congr 1
    omega
  have least : (2 : ℚ) ^ 52 ≤ m := by
    exact_mod_cast normal.full.resolve_right (by omega)
  have low := h.low
  rw [double] at below low
  rcases reach_cases m e with ⟨power, -, r⟩ | r
  · rw [r, power] at low
    push_cast at low
    refine ⟨power, by nlinarith, by linarith, ?_⟩
    refine halfEven_eq_of_near ?_ ?_ fun odd => absurd odd (by decide)
    · rw [le_div_iff₀ unit]
      push_cast
      linarith
    · rw [div_le_iff₀ unit]
      push_cast
      nlinarith
  · -- All other doubles attract nothing below the power.
    rw [r] at low
    have near : (m : ℚ) < 2 ^ 52 + 1 / 2 := by
      by_contra far
      nlinarith [not_lt.1 far]
    have power : m = 2 ^ 52 := by
      have least' : 2 ^ 52 ≤ m := by exact_mod_cast least
      have near' : (m : ℚ) < (2 ^ 52 + 1 : Nat) := by push_cast; linarith
      have := Nat.cast_lt.1 near'
      omega
    rw [reach, if_pos ⟨power, small⟩] at r
    norm_num at r

/-- Whatever a double attracts is rounded to it. -/
theorem ofRatio_of_attracts (negative : Bool) {num den : Nat} (hd : den ≠ 0) (normal : Normal m e)
    (h : Attracts m e (num / den)) : ofRatio negative num den = .finite negative m e := by
  have hn : num ≠ 0 := by
    rintro rfl
    have pos := h.pos normal.pos
    rw [Nat.cast_zero, zero_div] at pos
    exact lt_irrefl _ pos
  by_cases full : (2 : ℚ) ^ 52 * 2 ^ e ≤ num / den ∨ e = minUnit
  · have unit := unit_eq hn hd normal.low full (h.lt normal.short)
    rw [ofRatio_eq negative hn hd unit (h.halfEven full), if_neg normal.short.ne,
      if_neg (not_lt.2 normal.high)]
  · obtain ⟨below, other⟩ := not_or.1 full
    have small : minUnit < e := lt_of_le_of_ne normal.low (Ne.symm other)
    obtain ⟨power, full', short, carries⟩ := h.carried normal (not_le.1 below) small
    have unit := unit_eq hn hd (Int.le_sub_one_of_lt small) (.inl full') short
    rw [ofRatio_eq negative hn hd unit carries, if_pos rfl, Int.sub_add_cancel,
      if_neg (not_lt.2 normal.high), power]

end

/-! ## Results of arithmetic -/

/-- A rounded number has as many bits as its unit asks for, or one more. -/
theorem exists_rounded {num den : Nat} (hn : num ≠ 0) (hd : den ≠ 0) {u : ℤ}
    (unit : max minUnit (leadingExponent num den - (precision - 1 : Nat)) = u) :
    ∃ r : Nat, halfEven (num / den / 2 ^ u) = r ∧ r ≤ 2 ^ 53 ∧ (2 ^ 52 ≤ r ∨ u = minUnit) := by
  obtain ⟨lower, upper⟩ := leadingExponent_spec hn hd
  have bits : ((precision - 1 : Nat) : ℤ) = 52 := rfl
  have pos : (0 : ℚ) < 2 ^ u := zpow_pos two_pos u
  have power : ∀ k : Nat, (((2 ^ k : Nat) : ℤ) : ℚ) * 2 ^ u = 2 ^ (k + u) := fun k => by
    rw [zpow_add₀ two_ne_zero, zpow_natCast, Int.cast_natCast, Nat.cast_pow, Nat.cast_ofNat]
  have nonneg : 0 ≤ halfEven (num / den / 2 ^ u) :=
    Decimal.le_halfEven (by push_cast; positivity)
  have most : halfEven (num / den / 2 ^ u) ≤ (2 ^ 53 : Nat) := by
    refine Decimal.halfEven_le ?_
    rw [div_le_iff₀ pos, power]
    exact upper.le.trans (zpow_le_zpow_right₀ one_le_two (by omega))
  obtain ⟨r, rounds⟩ := Int.eq_ofNat_of_zero_le nonneg
  rw [rounds] at most
  refine ⟨r, rounds, by exact_mod_cast most, ?_⟩
  by_cases least : u = minUnit
  · exact .inr least
  · refine .inl ?_
    have full : ((2 ^ 52 : Nat) : ℤ) ≤ halfEven (num / den / 2 ^ u) := by
      refine Decimal.le_halfEven ?_
      rw [le_div_iff₀ pos, power]
      exact (zpow_le_zpow_right₀ one_le_two (by omega)).trans lower
    rw [rounds] at full
    exact_mod_cast full

theorem valid_ofRatio (negative : Bool) (num : Nat) {den : Nat} (hd : den ≠ 0) :
    Valid (ofRatio negative num den) := by
  by_cases hn : num = 0
  · rw [ofRatio, if_pos hn]
    exact .zero negative
  · obtain ⟨u, unit⟩ : ∃ u, max minUnit (leadingExponent num den - (precision - 1 : Nat)) = u :=
      ⟨_, rfl⟩
    obtain ⟨r, rounds, most, full⟩ := exists_rounded hn hd unit
    have low : minUnit ≤ u := unit ▸ le_max_left ..
    rw [ofRatio_eq negative hn hd unit rounds]
    split_ifs with carry large large
    · exact .infinite negative
    · exact .finite negative ⟨by decide, by decide, .inl le_rfl, by omega, not_lt.1 large⟩
    · exact .infinite negative
    · by_cases none : r = 0
      · have least := full.resolve_left (by rw [none]; decide)
        rw [none, least]
        exact .zero negative
      · exact .finite negative ⟨none, lt_of_le_of_ne most carry, full, low, not_lt.1 large⟩

/-- A sum is a double of the format. -/
theorem valid_add (a b : Double) : Valid (a.add b) := by
  cases a with
  | nan => exact .nan
  | infinite n =>
    cases b with
    | nan => exact .nan
    | infinite m =>
      rw [add]
      split
      · exact .infinite n
      · exact .nan
    | finite => exact .infinite n
  | finite n c e =>
    cases b with
    | nan => exact .nan
    | infinite m => exact .infinite m
    | finite => exact valid_ofRatio _ _ (twoTo_pos _).ne'

end EventLedger.Double
