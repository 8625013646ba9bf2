import Mathlib.Data.Int.Log
import Mathlib.Data.Rat.Floor
import Mathlib.Tactic.Linarith
import Mathlib.Tactic.Positivity
import Mathlib.Tactic.FieldSimp
import OutlineSearch.Number.Binary64

/-!
# Rounding to floating point

The number that a ratio is rounded to depends on the value of the ratio alone.  A ratio that is
nearer to a number than half of the distance to the next numbers is rounded to it, and so a
number that can be represented is rounded to itself.  Only a large ratio is rounded to an
infinite number.
-/

namespace OutlineSearch.Binary64

/-! ## Values of ratios -/

theorem scaled_pos {n d : Nat} (positive : 0 < d) (e : Int) : 0 < (scaled n d e).2 := by
  cases e with
  | ofNat e => exact Nat.mul_pos positive (Nat.pow_pos (by decide))
  | negSucc e => exact positive

theorem scaled_value (n d : Nat) (e : Int) :
    ((scaled n d e).1 : ℚ) / (scaled n d e).2 = n / d / 2 ^ e := by
  cases e with
  | ofNat e =>
      simp only [scaled, Nat.pow_eq, Int.ofNat_eq_natCast, zpow_natCast]
      push_cast
      rw [div_div]
  | negSucc e =>
      simp only [scaled, Nat.pow_eq, zpow_negSucc]
      push_cast
      rw [div_inv_eq_mul, div_mul_eq_mul_div]

theorem ratio_pos (significand : Nat) (e : Int) : 0 < (ratio significand e).2 := by
  cases e with
  | ofNat e => exact Nat.one_pos
  | negSucc e => exact Nat.pow_pos (by decide)

theorem ratio_value (significand : Nat) (e : Int) :
    ((ratio significand e).1 : ℚ) / (ratio significand e).2 = significand * 2 ^ e := by
  cases e with
  | ofNat e => simp [ratio]
  | negSucc e => simp [ratio, zpow_negSucc, div_eq_mul_inv]

/-- A quotient of two numbers lies between powers of a base that are known from powers around
the two numbers. -/
theorem quotient_between {base n d p q : Nat} (proper : 0 < base) (atLeast : base ^ p ≤ n)
    (less : n < base ^ (p + 1)) (atLeastToo : base ^ q ≤ d) (lessToo : d < base ^ (q + 1)) :
    (base : ℚ) ^ ((p : Int) - q - 1) ≤ n / d ∧ (n / d : ℚ) < (base : ℚ) ^ ((p : Int) - q + 1) := by
  have positiveBase : (0 : ℚ) < base := by exact_mod_cast proper
  have positive : (0 : ℚ) < d := by
    exact_mod_cast Nat.lt_of_lt_of_le (Nat.pow_pos proper) atLeastToo
  constructor
  · have split : (p : Int) - q - 1 = (p : Int) - ((q + 1 : ℕ) : Int) := by omega
    rw [split, zpow_sub₀ positiveBase.ne', zpow_natCast, zpow_natCast]
    apply div_le_div₀ (Nat.cast_nonneg n) _ positive
    · exact_mod_cast lessToo.le
    · exact_mod_cast atLeast
  · have split : (p : Int) - q + 1 = ((p + 1 : ℕ) : Int) - (q : Int) := by omega
    rw [split, zpow_sub₀ positiveBase.ne', zpow_natCast, zpow_natCast]
    apply div_lt_div₀
    · exact_mod_cast less
    · exact_mod_cast atLeastToo
    · positivity
    · positivity

/-! ## The parts of rounding -/

theorem exponentOf_eq {n d : Nat} (someNumerator : 0 < n) (someDenominator : 0 < d) :
    exponentOf n d = max leastExponent (Int.log 2 (n / d : ℚ) - 52) := by
  have numerator : (0 : ℚ) < n := by exact_mod_cast someNumerator
  have denominator : (0 : ℚ) < d := by exact_mod_cast someDenominator
  have positive : (0 : ℚ) < n / d := div_pos numerator denominator
  obtain ⟨guess, isGuess⟩ : ∃ g : Int, g = (n.log2 : Int) - d.log2 - 53 := ⟨_, rfl⟩
  obtain ⟨lower, upper⟩ := quotient_between two_pos
    (Nat.log2_self_le (Nat.pos_iff_ne_zero.mp someNumerator)) Nat.lt_log2_self
    (Nat.log2_self_le (Nat.pos_iff_ne_zero.mp someDenominator)) Nat.lt_log2_self
  rw [Int.zpow_le_iff_le_log one_lt_two positive] at lower
  rw [Int.lt_zpow_iff_log_lt one_lt_two positive] at upper
  have overflows : Nat.pow 2 53 ≤ (scaled n d guess).1 / (scaled n d guess).2 ↔
      guess + 53 ≤ Int.log 2 (n / d : ℚ) := by
    have scaledDenominator : (0 : ℚ) < (scaled n d guess).2 := by
      exact_mod_cast scaled_pos someDenominator guess
    have twoPower : (0 : ℚ) < 2 ^ guess := zpow_pos two_pos guess
    calc
      Nat.pow 2 53 ≤ (scaled n d guess).1 / (scaled n d guess).2
        ↔ Nat.pow 2 53 * (scaled n d guess).2 ≤ (scaled n d guess).1 :=
          Nat.le_div_iff_mul_le (scaled_pos someDenominator guess)
      _ ↔ (2 : ℚ) ^ (53 : ℤ) ≤ (scaled n d guess).1 / (scaled n d guess).2 := by
          rw [le_div_iff₀ scaledDenominator]
          norm_cast
      _ ↔ ((2 : ℕ) : ℚ) ^ (guess + 53) ≤ n / d := by
          rw [scaled_value, le_div_iff₀ twoPower, ← zpow_add₀ two_ne_zero, add_comm,
            Nat.cast_ofNat]
      _ ↔ guess + 53 ≤ Int.log 2 (n / d : ℚ) := Int.zpow_le_iff_le_log one_lt_two positive
  unfold exponentOf
  rw [← isGuess]
  dsimp only
  split
  · rename_i overflow
    have atLeast := overflows.mp overflow
    congr 1
    omega
  · rename_i noOverflow
    have below := mt overflows.mpr noOverflow
    congr 1
    omega

theorem roundedQuotient_mul {n d c : Nat} (positive : 0 < c) :
    roundedQuotient (c * n) (c * d) = roundedQuotient n d := by
  have tie : (2 * (c * (n % d)) == c * d) = (2 * (n % d) == d) := by
    rw [Nat.mul_left_comm]
    exact decide_eq_decide.mpr (Nat.mul_right_inj (Nat.pos_iff_ne_zero.mp positive))
  have isUp : (c * d < 2 * (c * (n % d))) = (d < 2 * (n % d)) := by
    rw [Nat.mul_left_comm 2 c, Nat.mul_lt_mul_left positive]
  unfold roundedQuotient
  simp only [Nat.mul_div_mul_left _ _ positive, Nat.mul_mod_mul_left, tie, isUp]

/-- The rounded quotient depends on the value of the ratio alone. -/
theorem roundedQuotient_congr {n d n' d' : Nat} (positive : 0 < d) (positiveToo : 0 < d')
    (same : (n / d : ℚ) = n' / d') : roundedQuotient n d = roundedQuotient n' d' := by
  have cross : d' * n = d * n' := by
    rw [div_eq_div_iff (by exact_mod_cast positive.ne') (by exact_mod_cast positiveToo.ne')]
      at same
    have product : n * d' = n' * d := by exact_mod_cast same
    linarith
  calc
    roundedQuotient n d = roundedQuotient (d' * n) (d' * d) :=
      (roundedQuotient_mul positiveToo).symm
    _ = roundedQuotient (d * n') (d * d') := by rw [cross, Nat.mul_comm d' d]
    _ = roundedQuotient n' d' := roundedQuotient_mul positive

/-- A ratio that lies within half of one of a whole number is rounded to it. -/
theorem roundedQuotient_eq {n d m : Nat} (positive : 0 < d) (above : 2 * n < (2 * m + 1) * d)
    (below : 2 * m * d < 2 * n + d) : roundedQuotient n d = m := by
  have division := Nat.div_add_mod n d
  unfold roundedQuotient
  dsimp only
  rcases Nat.lt_or_ge n (m * d) with less | atLeast
  · obtain ⟨k, rfl⟩ : ∃ k, m = k + 1 := Nat.exists_eq_succ_of_ne_zero (by rintro rfl; omega)
    have quotient : n / d = k := Nat.div_eq_of_lt_le (by linarith) (by linarith)
    rw [quotient] at division ⊢
    have isUp : d < 2 * (n % d) := by linarith
    rw [decide_eq_true isUp, Bool.true_or, if_pos rfl]
  · have quotient : n / d = m := Nat.div_eq_of_lt_le (by linarith) (by linarith)
    rw [quotient] at division ⊢
    have isDown : 2 * (n % d) < d := by linarith
    have notUp : ¬d < 2 * (n % d) := by omega
    have noTie : (2 * (n % d) == d) = false := by
      rw [beq_eq_false_iff_ne]
      omega
    simp [notUp, noTie]

/-! ## Rounding -/

theorem ofRatio_congr {negative : Bool} {n d n' d' : Nat} (positive : 0 < d)
    (positiveToo : 0 < d') (same : (n / d : ℚ) = n' / d') :
    ofRatio negative n d = ofRatio negative n' d' := by
  have denominator : (d : ℚ) ≠ 0 := by exact_mod_cast positive.ne'
  have denominatorToo : (d' : ℚ) ≠ 0 := by exact_mod_cast positiveToo.ne'
  rcases Nat.eq_zero_or_pos n with rfl | someNumerator
  · have zero : n' = 0 := by
      rw [Nat.cast_zero, zero_div, eq_comm, div_eq_zero_iff] at same
      exact_mod_cast same.resolve_right denominatorToo
    rw [zero, ofRatio, ofRatio, if_pos rfl, if_pos rfl]
  · have someNumeratorToo : 0 < n' := by
      rcases Nat.eq_zero_or_pos n' with rfl | some
      · rw [Nat.cast_zero, zero_div, div_eq_zero_iff] at same
        have zero : n = 0 := by exact_mod_cast same.resolve_right denominator
        omega
      · exact some
    have exponents : exponentOf n d = exponentOf n' d' := by
      rw [exponentOf_eq someNumerator positive, exponentOf_eq someNumeratorToo positiveToo, same]
    have significands : ∀ e : Int,
        roundedQuotient (scaled n d e).1 (scaled n d e).2 =
          roundedQuotient (scaled n' d' e).1 (scaled n' d' e).2 := by
      intro e
      apply roundedQuotient_congr (scaled_pos positive e) (scaled_pos positiveToo e)
      rw [scaled_value, scaled_value, same]
    unfold ofRatio
    rw [if_neg someNumerator.ne', if_neg someNumeratorToo.ne', exponents]
    dsimp only
    rw [significands]

/-! ## Results that are too large -/

theorem le_roundedQuotient (n d : Nat) :
    n / d ≤ roundedQuotient n d ∧ roundedQuotient n d ≤ n / d + 1 := by
  unfold roundedQuotient
  dsimp only
  split <;> omega

/-- Cut off at its exponent, a ratio has 53 bits, or fewer at the least exponent. -/
theorem quotient_exponentOf {n d : Nat} (someNumerator : 0 < n) (someDenominator : 0 < d) :
    (scaled n d (exponentOf n d)).1 / (scaled n d (exponentOf n d)).2 < 2 ^ 53 ∧
      (exponentOf n d = leastExponent ∨
        2 ^ 52 ≤ (scaled n d (exponentOf n d)).1 / (scaled n d (exponentOf n d)).2) := by
  have positive : (0 : ℚ) < n / d := by positivity
  have exponent := exponentOf_eq someNumerator someDenominator
  generalize exponentOf n d = e at exponent ⊢
  have scaledDenominator := scaled_pos (n := n) someDenominator e
  have denominator : (0 : ℚ) < (scaled n d e).2 := by exact_mod_cast scaledDenominator
  have unit : (0 : ℚ) < 2 ^ e := zpow_pos two_pos e
  constructor
  · have less : (n / d : ℚ) < 2 ^ (53 : ℤ) * 2 ^ e := by
      rw [← zpow_add₀ two_ne_zero, ← Nat.cast_ofNat, Int.lt_zpow_iff_log_lt one_lt_two positive]
      omega
    rw [← div_lt_iff₀ unit, ← scaled_value, div_lt_iff₀ denominator] at less
    rw [Nat.div_lt_iff_lt_mul scaledDenominator]
    exact_mod_cast less
  · rcases le_or_gt (Int.log 2 (n / d : ℚ) - 52) leastExponent with small | large
    · exact .inl (by omega)
    · right
      have atLeast : 2 ^ (52 : ℤ) * 2 ^ e ≤ (n / d : ℚ) := by
        rw [← zpow_add₀ two_ne_zero, ← Nat.cast_ofNat,
          Int.zpow_le_iff_le_log one_lt_two positive]
        omega
      rw [← le_div_iff₀ unit, ← scaled_value, le_div_iff₀ denominator] at atLeast
      rw [Nat.le_div_iff_mul_le scaledDenominator]
      exact_mod_cast atLeast

/-- Only a ratio of `2 ^ 1023` or more is rounded to an infinite number. -/
theorem le_of_ofRatio_eq_infinite {negative sign : Bool} {n d : Nat} (positive : 0 < d)
    (infinite : ofRatio negative n d = .infinite sign) : (2 : ℚ) ^ (1023 : ℤ) ≤ n / d := by
  have someNumerator : 0 < n := by
    rw [Nat.pos_iff_ne_zero]
    rintro rfl
    cases infinite
  have large : greatestExponent ≤ exponentOf n d := by
    by_contra less
    rw [Int.not_le] at less
    have least : leastExponent ≤ exponentOf n d := by
      rw [exponentOf_eq someNumerator positive]
      exact le_max_left _ _
    obtain ⟨small, full⟩ := quotient_exponentOf someNumerator positive
    obtain ⟨atLeast, atMost⟩ :=
      le_roundedQuotient (scaled n d (exponentOf n d)).1 (scaled n d (exponentOf n d)).2
    rw [ofRatio, if_neg someNumerator.ne'] at infinite
    dsimp only at infinite
    split at infinite
    · have standard : IsStandard (Nat.pow 2 52) (exponentOf n d + 1) :=
        ⟨by omega, by omega, by decide, .inr (Nat.le_refl _)⟩
      rw [ofParts, dif_pos standard] at infinite
      cases infinite
    · rename_i notUp
      have most : roundedQuotient (scaled n d (exponentOf n d)).1
          (scaled n d (exponentOf n d)).2 ≤ 2 ^ 53 := by omega
      have standard : IsStandard (roundedQuotient (scaled n d (exponentOf n d)).1
          (scaled n d (exponentOf n d)).2) (exponentOf n d) :=
        ⟨least, less.le, Nat.lt_of_le_of_ne most notUp,
          full.imp_right fun bits => bits.trans atLeast⟩
      rw [ofParts, dif_pos standard] at infinite
      cases infinite
  have numerator : (0 : ℚ) < n / d := by positivity
  rw [exponentOf_eq someNumerator positive] at large
  rw [← Nat.cast_ofNat, Int.zpow_le_iff_le_log one_lt_two numerator]
  have bounds : leastExponent < greatestExponent := by decide
  have exponent : greatestExponent = 971 := rfl
  omega

/-! ## Numbers that are near -/

/-- The ratios that are rounded to a number: those within half of the distance to the next
numbers.  Below a power of two the next number is nearer. -/
structure IsNear (significand : Nat) (exponent : Int) (r : ℚ) : Prop where
  above : r < (significand + 1 / 2) * 2 ^ exponent
  below : (significand - 1 / 2) * 2 ^ exponent < r
  belowPower : significand = 2 ^ 52 → (significand - 1 / 4) * 2 ^ exponent < r

theorem roundedQuotient_scaled {n d m : Nat} {e : Int} (positive : 0 < d)
    (above : (n / d : ℚ) < (m + 1 / 2) * 2 ^ e) (below : (m - 1 / 2) * 2 ^ e < (n / d : ℚ)) :
    roundedQuotient (scaled n d e).1 (scaled n d e).2 = m := by
  have denominator : (0 : ℚ) < (scaled n d e).2 := by exact_mod_cast scaled_pos positive e
  have unit : (0 : ℚ) < 2 ^ e := zpow_pos two_pos e
  rw [← div_lt_iff₀ unit, ← scaled_value, div_lt_iff₀ denominator] at above
  rw [← lt_div_iff₀ unit, ← scaled_value, lt_div_iff₀ denominator] at below
  apply roundedQuotient_eq (scaled_pos positive e)
  · have cross : (2 * (scaled n d e).1 : ℚ) < (2 * m + 1) * (scaled n d e).2 := by linarith
    exact_mod_cast cross
  · have cross : (2 * m * (scaled n d e).2 : ℚ) < 2 * (scaled n d e).1 + (scaled n d e).2 := by
      linarith
    exact_mod_cast cross

namespace IsNear

section Ratio

variable {significand : Nat} {exponent : Int} {r : ℚ} (near : IsNear significand exponent r)
  (nonzero : 0 < significand)
include near

include nonzero in
theorem ratio_pos : 0 < r := by
  have some : (1 : ℚ) ≤ significand := by exact_mod_cast nonzero
  have half : (0 : ℚ) < (significand - 1 / 2) * 2 ^ exponent :=
    mul_pos (by linarith) (zpow_pos two_pos exponent)
  exact half.trans near.below

include nonzero in
theorem log_lt (small : significand < 2 ^ 53) : Int.log 2 r < exponent + 53 := by
  rw [← Int.lt_zpow_iff_log_lt one_lt_two (near.ratio_pos nonzero), Nat.cast_ofNat,
    zpow_add₀ two_ne_zero, mul_comm]
  have small : (significand + 1 : ℚ) ≤ 2 ^ (53 : ℤ) := by exact_mod_cast small
  apply near.above.trans_le
  apply mul_le_mul_of_nonneg_right _ (zpow_pos two_pos exponent).le
  linarith

/-- Only below a power of two is a ratio rounded up to a greater exponent than its own. -/
theorem isPower (full : 2 ^ 52 ≤ significand) (less : r < 2 ^ (52 : ℤ) * 2 ^ exponent) :
    significand = 2 ^ 52 := by
  have lessPower := lt_of_mul_lt_mul_right (near.below.trans less) (zpow_pos two_pos exponent).le
  have lessTwice : (2 * significand : ℚ) < 2 * 2 ^ (52 : ℤ) + 1 := by linarith
  have lessNat : 2 * significand < 2 * 2 ^ 52 + 1 := by exact_mod_cast lessTwice
  omega

include nonzero in
theorem le_log (power : significand = 2 ^ 52) : exponent + 51 ≤ Int.log 2 r := by
  rw [← Int.zpow_le_iff_le_log one_lt_two (near.ratio_pos nonzero), Nat.cast_ofNat,
    zpow_add₀ two_ne_zero, mul_comm]
  refine le_trans (mul_le_mul_of_nonneg_right ?_ (zpow_pos two_pos exponent).le)
    (near.belowPower power).le
  rw [power]
  norm_num

end Ratio

theorem numerator_pos {significand n d : Nat} {exponent : Int}
    (near : IsNear significand exponent (n / d)) (nonzero : 0 < significand) : 0 < n := by
  rcases Nat.eq_zero_or_pos n with rfl | some
  · simpa using near.ratio_pos nonzero
  · exact some

end IsNear

section Near

variable {significand n d : Nat} {exponent : Int} (standard : IsStandard significand exponent)
  (nonzero : 0 < significand) (positive : 0 < d) (near : IsNear significand exponent (n / d))
include standard nonzero positive near

/-- The exponent of a ratio near a number is the exponent of the number, or the one below it if
the number is a power of two. -/
theorem exponentOf_of_isNear : exponentOf n d = exponent ∨
    exponentOf n d = exponent - 1 ∧ significand = 2 ^ 52 ∧
      (n / d : ℚ) < 2 ^ (52 : ℤ) * 2 ^ exponent := by
  have exponentIs := exponentOf_eq (near.numerator_pos nonzero) positive
  have notAbove := near.log_lt nonzero standard.small
  have least := standard.least
  by_cases same : exponentOf n d = exponent
  · exact .inl same
  · have lessLog : Int.log 2 (n / d : ℚ) < exponent + 52 := by omega
    have full := standard.full.resolve_left (by omega)
    have less := (Int.lt_zpow_iff_log_lt one_lt_two (near.ratio_pos nonzero)).mpr lessLog
    rw [Nat.cast_ofNat, zpow_add₀ two_ne_zero, mul_comm] at less
    have power := near.isPower full less
    have atLeast := near.le_log nonzero power
    exact .inr ⟨by omega, power, less⟩

theorem ofRatio_of_isNear {negative : Bool} :
    ofRatio negative n d = .finite negative significand exponent standard := by
  unfold ofRatio
  rw [if_neg (near.numerator_pos nonzero).ne']
  rcases exponentOf_of_isNear standard nonzero positive near with same | ⟨below, power, less⟩
  · have rounded := roundedQuotient_scaled positive near.above near.below
    have notFull : significand ≠ Nat.pow 2 53 := standard.small.ne
    simp only [same, rounded, if_neg notFull, ofParts, dif_pos standard]
  · -- the ratio is just below a power of two, and is rounded up to it at the exponent below
    have double : (2 : ℚ) ^ exponent = 2 * 2 ^ (exponent - 1) := by
      rw [zpow_sub_one₀ two_ne_zero]
      ring
    have halfUnit : (0 : ℚ) < 2 ^ (exponent - 1) := zpow_pos two_pos _
    have rounded : roundedQuotient (scaled n d (exponent - 1)).1 (scaled n d (exponent - 1)).2 =
        2 ^ 53 := by
      apply roundedQuotient_scaled positive
      · rw [double] at less
        push_cast
        linarith
      · have nearPower := near.belowPower power
        rw [double, power] at nearPower
        push_cast at nearPower ⊢
        linarith
    have parts := standard
    rw [power] at parts
    simp only [below, rounded, Nat.pow_eq, if_true, power, Int.sub_add_cancel, ofParts,
      dif_pos parts]

end Near

/-- A number that can be represented is rounded to itself. -/
theorem ofRatio_of_eq {negative : Bool} {significand n d : Nat} {exponent : Int}
    (standard : IsStandard significand exponent) (nonzero : 0 < significand) (positive : 0 < d)
    (same : (n / d : ℚ) = significand * 2 ^ exponent) :
    ofRatio negative n d = .finite negative significand exponent standard := by
  have unit : (0 : ℚ) < 2 ^ exponent := zpow_pos two_pos exponent
  apply ofRatio_of_isNear standard nonzero positive
  rw [same]
  constructor
  · exact mul_lt_mul_of_pos_right (by linarith) unit
  · exact mul_lt_mul_of_pos_right (by linarith) unit
  · exact fun _ => mul_lt_mul_of_pos_right (by linarith) unit

end OutlineSearch.Binary64
