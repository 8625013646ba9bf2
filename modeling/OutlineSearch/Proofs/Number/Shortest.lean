import OutlineSearch.Number.Decimal
import OutlineSearch.Proofs.Number.Rounding

/-!
# Shortest decimals are read back

The number that a decimal denotes depends on the value of the decimal alone.  Among the decimals
with seventeen digits there is one that is nearer to a number than half of the distance to the
next numbers, and so the search for the shortest decimal that is read back does not fail.
-/

namespace OutlineSearch.Binary64

/-! ## Decimals -/

theorem length_toDigits_mul_pow {digits : Nat} (nonzero : 0 < digits) (zeros : Nat) :
    (Nat.toDigits 10 (digits * 10 ^ zeros)).length = (Nat.toDigits 10 digits).length + zeros := by
  have some : 0 < (Nat.toDigits 10 digits).length := Nat.length_toDigits_pos
  have less : digits < 10 ^ (Nat.toDigits 10 digits).length :=
    (Nat.length_toDigits_le_iff (by decide) some).mp le_rfl
  apply le_antisymm
  · rw [Nat.length_toDigits_le_iff (by decide) (by omega), Nat.pow_add]
    exact Nat.mul_lt_mul_of_pos_right less (Nat.pow_pos (by decide))
  · by_contra shorter
    have short : (Nat.toDigits 10 (digits * 10 ^ zeros)).length ≤
        (Nat.toDigits 10 digits).length - 1 + zeros := by
      omega
    have someToo : 0 < (Nat.toDigits 10 (digits * 10 ^ zeros)).length := Nat.length_toDigits_pos
    rw [Nat.length_toDigits_le_iff (by decide) (by omega), Nat.pow_add] at short
    have lessDigits := Nat.lt_of_mul_lt_mul_right short
    rcases Nat.eq_zero_or_pos ((Nat.toDigits 10 digits).length - 1) with zero | more
    · rw [zero, Nat.pow_zero] at lessDigits
      omega
    · have fewer := (Nat.length_toDigits_le_iff (by decide) more).mpr lessDigits
      omega

theorem ofDecimal_eq_ofRatio {negative : Bool} {digits n d : Nat} {exponent : Int}
    (nonzero : 0 < digits)
    (small : (Nat.toDigits 10 digits).length + exponent ≤ 400)
    (large : -400 ≤ (Nat.toDigits 10 digits).length + exponent) (positive : 0 < d)
    (same : (n / d : ℚ) = digits * 10 ^ exponent) :
    ofDecimal negative digits exponent = ofRatio negative n d := by
  have notLarge : ¬400 < (Nat.toDigits 10 digits).length + exponent := by omega
  have notSmall : ¬((Nat.toDigits 10 digits).length + exponent < -400) := by omega
  unfold ofDecimal
  rw [if_neg nonzero.ne']
  dsimp only
  rw [if_neg notLarge, if_neg notSmall]
  cases exponent with
  | ofNat e =>
      apply ofRatio_congr Nat.one_pos positive
      rw [same]
      simp
  | negSucc e =>
      apply ofRatio_congr (Nat.pow_pos (by decide)) positive
      rw [same, zpow_negSucc]
      simp [div_eq_mul_inv]

theorem exists_ratio (digits : Nat) (exponent : Int) :
    ∃ n d : Nat, 0 < d ∧ (n / d : ℚ) = digits * 10 ^ exponent := by
  cases exponent with
  | ofNat e => exact ⟨digits * 10 ^ e, 1, Nat.one_pos, by simp⟩
  | negSucc e =>
      refine ⟨digits, 10 ^ (e + 1), Nat.pow_pos (by decide), ?_⟩
      rw [zpow_negSucc, div_eq_mul_inv]
      push_cast
      rfl

/-- Zeros at the end of the digits count for the exponent. -/
theorem ofDecimal_mul_pow (negative : Bool) (digits zeros : Nat) (exponent : Int) :
    ofDecimal negative (digits * 10 ^ zeros) exponent =
      ofDecimal negative digits (exponent + zeros) := by
  rcases Nat.eq_zero_or_pos digits with rfl | nonzero
  · rw [Nat.zero_mul]
    rfl
  · have nonzeroToo : 0 < digits * 10 ^ zeros := Nat.mul_pos nonzero (Nat.pow_pos (by decide))
    have magnitude : ((Nat.toDigits 10 (digits * 10 ^ zeros)).length : Int) + exponent =
        (Nat.toDigits 10 digits).length + (exponent + zeros) := by
      rw [length_toDigits_mul_pow nonzero]
      push_cast
      ring
    obtain ⟨n, d, positive, same⟩ := exists_ratio digits (exponent + zeros)
    by_cases range : (Nat.toDigits 10 digits).length + (exponent + zeros) ≤ 400 ∧
        -400 ≤ (Nat.toDigits 10 digits).length + (exponent + zeros)
    · rw [ofDecimal_eq_ofRatio nonzero range.1 range.2 positive same]
      apply ofDecimal_eq_ofRatio nonzeroToo (magnitude ▸ range.1) (magnitude ▸ range.2) positive
      rw [same, zpow_add₀ (by norm_num), zpow_natCast]
      push_cast
      ring
    · unfold ofDecimal
      rw [if_neg nonzero.ne', if_neg nonzeroToo.ne', magnitude]
      dsimp only
      split
      · rfl
      · rw [if_pos (by omega), if_pos (by omega)]

/-! ## The leading digit -/

theorem powerBelow_succ {n d : Nat} (positive : 0 < d) (start : Int) (steps : Nat) :
    powerBelow n d start (steps + 1) =
      if (10 : ℚ) ^ start ≤ n / d then start else powerBelow n d (start - 1) steps := by
  have denominator : (0 : ℚ) < d := by exact_mod_cast positive
  cases start with
  | ofNat e =>
      have fits : (10 : ℚ) ^ Int.ofNat e ≤ n / d ↔ d * Nat.pow 10 e ≤ n := by
        rw [le_div_iff₀ denominator, mul_comm, Nat.pow_eq, Int.ofNat_eq_natCast, zpow_natCast]
        norm_cast
      simp only [powerBelow, fits, decide_eq_true_eq]
  | negSucc e =>
      have fits : (10 : ℚ) ^ Int.negSucc e ≤ n / d ↔ d ≤ n * Nat.pow 10 (e + 1) := by
        have power : (0 : ℚ) < 10 ^ (e + 1) := by positivity
        rw [le_div_iff₀ denominator, zpow_negSucc, inv_mul_le_iff₀ power, mul_comm, Nat.pow_eq]
        norm_cast
      simp only [powerBelow, fits, decide_eq_true_eq]

/-- The search for the leading digit ends at a power of ten that is not greater, if there is one
within its steps. -/
theorem powerBelow_spec {n d : Nat} (positive : 0 < d) (start : Int) (steps : Nat)
    (reached : (10 : ℚ) ^ (start - steps) ≤ n / d) :
    (10 : ℚ) ^ powerBelow n d start steps ≤ n / d ∧ start - steps ≤ powerBelow n d start steps := by
  induction steps generalizing start with
  | zero => simpa [powerBelow] using reached
  | succ steps induction =>
      rw [powerBelow_succ positive]
      by_cases fits : (10 : ℚ) ^ start ≤ n / d
      · rw [if_pos fits]
        exact ⟨fits, by omega⟩
      · rw [if_neg fits]
        have same : start - (steps + 1 : ℕ) = start - 1 - steps := by push_cast; ring
        rw [same] at reached ⊢
        exact induction (start - 1) reached

theorem leadingExponent_spec {n d : Nat} (someNumerator : 0 < n) (positive : 0 < d) :
    (10 : ℚ) ^ leadingExponent n d ≤ n / d ∧ (n / d : ℚ) < 10 ^ (leadingExponent n d + 4) := by
  have spread : ∀ m : Nat, 0 < m → ∃ p, (Nat.toDigits 10 m).length = p + 1 ∧ 10 ^ p ≤ m ∧
      m < 10 ^ (p + 1) := by
    intro m some
    have length : 0 < (Nat.toDigits 10 m).length := Nat.length_toDigits_pos
    obtain ⟨p, isLength⟩ := Nat.exists_eq_succ_of_ne_zero length.ne'
    have less := (Nat.length_toDigits_le_iff (by decide) length).mp le_rfl
    rw [isLength] at less
    refine ⟨p, isLength, ?_, less⟩
    rcases Nat.eq_zero_or_pos p with rfl | more
    · rw [Nat.pow_zero]
      exact some
    · by_contra less
      have shorter := (Nat.length_toDigits_le_iff (by decide) more).mpr (not_le.mp less)
      omega
  obtain ⟨p, numeratorLength, numeratorAtLeast, numeratorLess⟩ := spread n someNumerator
  obtain ⟨q, denominatorLength, denominatorAtLeast, denominatorLess⟩ := spread d positive
  obtain ⟨lower, upper⟩ := quotient_between (by decide) numeratorAtLeast numeratorLess
    denominatorAtLeast denominatorLess
  rw [Nat.cast_ofNat] at lower upper
  have start : leadingExponent n d = powerBelow n d ((p : Int) - q + 1) 4 := by
    rw [leadingExponent, numeratorLength, denominatorLength]
    congr 1
    push_cast
    ring
  have reached : (10 : ℚ) ^ ((p : Int) - q + 1 - (4 : ℕ)) ≤ n / d :=
    (zpow_le_zpow_right₀ (by norm_num) (by omega)).trans lower
  obtain ⟨fits, within⟩ := powerBelow_spec positive _ 4 reached
  rw [← start] at fits within
  exact ⟨fits, upper.trans_le (zpow_le_zpow_right₀ (by norm_num) (by omega))⟩

/-! ## The search for digits -/

theorem roundedQuotient_cases (n d : Nat) :
    roundedQuotient n d = n / d ∨ roundedQuotient n d = n / d + 1 := by
  unfold roundedQuotient
  dsimp only
  split
  · exact .inr rfl
  · exact .inl rfl

/-- The two neighbours of a ratio on the grid of decimals with `count` digits. -/
theorem exists_neighbours (number : Binary64) (n : Nat) {d : Nat} (leading : Int) (count : Nat)
    (positive : 0 < d) :
    ∃ p q : Nat, 0 < q ∧ (p / q : ℚ) = n / d / 10 ^ (leading - (count - 1 : Nat)) ∧
      neighbour? number n d leading count =
        match ofDecimal false (p / q) (leading - (count - 1 : Nat)) == number,
          ofDecimal false (p / q + 1) (leading - (count - 1 : Nat)) == number with
        | true, true => some ⟨roundedQuotient p q, leading - (count - 1 : Nat)⟩
        | true, false => some ⟨p / q, leading - (count - 1 : Nat)⟩
        | false, true => some ⟨p / q + 1, leading - (count - 1 : Nat)⟩
        | false, false => none := by
  unfold neighbour?
  generalize leading - (count - 1 : Nat) = exponent
  cases exponent with
  | ofNat e =>
      refine ⟨n, d * Nat.pow 10 e, Nat.mul_pos positive (Nat.pow_pos (by decide)), ?_, rfl⟩
      rw [div_div]
      simp
  | negSucc e =>
      refine ⟨n * Nat.pow 10 (e + 1), d, positive, ?_, rfl⟩
      rw [zpow_negSucc, div_inv_eq_mul, div_mul_eq_mul_div]
      simp

theorem ofDecimal_of_neighbour? {number : Binary64} {n d count : Nat} {leading : Int}
    {decimal : Decimal} (positive : 0 < d)
    (found : neighbour? number n d leading count = some decimal) :
    ofDecimal false decimal.digits decimal.exponent = number := by
  obtain ⟨p, q, -, -, outcome⟩ := exists_neighbours number n leading count positive
  rw [found] at outcome
  split at outcome
  · rename_i below above
    obtain rfl := Option.some.inj outcome
    rcases roundedQuotient_cases p q with isBelow | isAbove
    · rw [isBelow]
      exact beq_iff_eq.mp below
    · rw [isAbove]
      exact beq_iff_eq.mp above
  · rename_i below _
    obtain rfl := Option.some.inj outcome
    exact beq_iff_eq.mp below
  · rename_i _ above
    obtain rfl := Option.some.inj outcome
    exact beq_iff_eq.mp above
  · cases outcome

theorem exists_neighbour? {number : Binary64} {n d count : Nat} {leading : Int}
    (positive : 0 < d)
    (reads : ∀ p q : Nat, 0 < q → (p / q : ℚ) = n / d / 10 ^ (leading - (count - 1 : Nat)) →
      ofDecimal false (p / q) (leading - (count - 1 : Nat)) = number ∨
        ofDecimal false (p / q + 1) (leading - (count - 1 : Nat)) = number) :
    ∃ decimal, neighbour? number n d leading count = some decimal := by
  obtain ⟨p, q, someDenominator, value, outcome⟩ :=
    exists_neighbours number n leading count positive
  rw [outcome]
  split
  · exact ⟨_, rfl⟩
  · exact ⟨_, rfl⟩
  · exact ⟨_, rfl⟩
  · rename_i notBelow notAbove
    rcases reads p q someDenominator value with below | above
    · rw [below, beq_self_eq_true] at notBelow
      cases notBelow
    · rw [above, beq_self_eq_true] at notAbove
      cases notAbove

/-! ## Seventeen digits suffice -/

theorem ten_pow_leading (leading : Int) : (10 : ℚ) ^ leading = 10 ^ 16 * 10 ^ (leading - 16) := by
  rw [← zpow_natCast, ← zpow_add₀ (by norm_num)]
  congr 1
  push_cast
  ring

/-- A ratio is within one half of the whole number below it or of the next one. -/
theorem near_floor_or_succ (p : Nat) {q : Nat} (positive : 0 < q) :
    |(((p / q : ℕ) : ℚ) - p / q)| ≤ 1 / 2 ∨ |(((p / q + 1 : ℕ) : ℚ) - p / q)| ≤ 1 / 2 := by
  have denominator : (0 : ℚ) < q := by exact_mod_cast positive
  have atLeast : ((p / q : ℕ) : ℚ) ≤ p / q := by
    rw [le_div_iff₀ denominator]
    exact_mod_cast Nat.div_mul_le_self p q
  have less : (p / q : ℚ) < (p / q : ℕ) + 1 := by
    rw [div_lt_iff₀ denominator]
    exact_mod_cast Nat.lt_mul_of_div_lt (Nat.lt_succ_self _) positive
  rcases le_or_gt (p / q - (p / q : ℕ) : ℚ) (1 / 2) with near | far
  · left
    rw [abs_le]
    constructor <;> linarith
  · right
    rw [abs_le]
    push_cast
    constructor <;> linarith

/-- What is off by at most half of the last one of seventeen digits is close to a number. -/
theorem close_of_half {significand n d : Nat} {exponent leading : Int} {digits ratio : ℚ}
    (value : (n / d : ℚ) = significand * 2 ^ exponent) (fits : (10 : ℚ) ^ leading ≤ n / d)
    (grid : ratio = n / d / 10 ^ (leading - 16)) (near : |digits - ratio| ≤ 1 / 2) :
    |(digits * 10 ^ (leading - 16) : ℚ) - significand * 2 ^ exponent| ≤
      significand * 2 ^ exponent / (2 * 10 ^ 16) := by
  have unit : (0 : ℚ) < 10 ^ (leading - 16) := zpow_pos (by norm_num) _
  have same : (significand * 2 ^ exponent : ℚ) = ratio * 10 ^ (leading - 16) := by
    rw [grid, ← value, div_mul_cancel₀ _ unit.ne']
  have half : (1 / 2 * 10 ^ (leading - 16) : ℚ) ≤ n / d / (2 * 10 ^ 16) := by
    rw [ten_pow_leading] at fits
    rw [le_div_iff₀ (by norm_num)]
    linarith
  calc
    |(digits * 10 ^ (leading - 16) : ℚ) - significand * 2 ^ exponent|
      = |digits - ratio| * 10 ^ (leading - 16) := by
        rw [same, ← sub_mul, abs_mul, abs_of_pos unit]
    _ ≤ 1 / 2 * 10 ^ (leading - 16) := mul_le_mul_of_nonneg_right near unit.le
    _ ≤ significand * 2 ^ exponent / (2 * 10 ^ 16) := by rwa [← value]

section Seventeen

variable {significand : Nat} {exponent : Int} (standard : IsStandard significand exponent)
  (nonzero : 0 < significand)
include standard nonzero

/-- A value that differs by less than a part in `2 * 10 ^ 16` is read as the same number. -/
theorem isNear_of_close {r : ℚ}
    (close : |r - significand * 2 ^ exponent| ≤ significand * 2 ^ exponent / (2 * 10 ^ 16)) :
    IsNear significand exponent r := by
  have unit : (0 : ℚ) < 2 ^ exponent := zpow_pos two_pos exponent
  have small : (significand : ℚ) < 2 ^ 53 := by exact_mod_cast standard.small
  obtain ⟨lower, upper⟩ := abs_le.mp close
  have half : (significand * 2 ^ exponent / (2 * 10 ^ 16) : ℚ) < 1 / 2 * 2 ^ exponent := by
    have part : (significand / (2 * 10 ^ 16) : ℚ) < 1 / 2 := by
      rw [div_lt_iff₀ (by norm_num)]
      exact small.trans (by norm_num)
    calc
      (significand * 2 ^ exponent / (2 * 10 ^ 16) : ℚ)
        = significand / (2 * 10 ^ 16) * 2 ^ exponent := by ring
      _ < 1 / 2 * 2 ^ exponent := mul_lt_mul_of_pos_right part unit
  refine ⟨by linarith, by linarith, ?_⟩
  rintro rfl
  have quarter : ((2 ^ 52 : ℕ) * 2 ^ exponent / (2 * 10 ^ 16) : ℚ) < 1 / 4 * 2 ^ exponent := by
    calc
      ((2 ^ 52 : ℕ) * 2 ^ exponent / (2 * 10 ^ 16) : ℚ)
        = (2 ^ 52 : ℕ) / (2 * 10 ^ 16) * 2 ^ exponent := by ring
      _ < 1 / 4 * 2 ^ exponent := mul_lt_mul_of_pos_right (by norm_num) unit
  linarith

theorem value_bounds : (10 : ℚ) ^ (-324 : ℤ) < significand * 2 ^ exponent ∧
    (2 * (significand * 2 ^ exponent) : ℚ) < 10 ^ (309 : ℤ) := by
  have unit : (0 : ℚ) < 2 ^ exponent := zpow_pos two_pos exponent
  have some : (1 : ℚ) ≤ significand := by exact_mod_cast nonzero
  have small : (significand : ℚ) < 2 ^ 53 := by exact_mod_cast standard.small
  have least : (2 : ℚ) ^ (-1074 : ℤ) ≤ 2 ^ exponent :=
    zpow_le_zpow_right₀ (by norm_num) standard.least
  have greatest : (2 : ℚ) ^ exponent ≤ 2 ^ (971 : ℤ) :=
    zpow_le_zpow_right₀ (by norm_num) standard.greatest
  have leastPower : (2 : ℚ) ^ 1074 < 10 ^ 324 := by
    exact_mod_cast (by decide +kernel : 2 ^ 1074 < 10 ^ 324)
  have greatestPower : (2 * (2 ^ 53 * 2 ^ 971) : ℚ) < 10 ^ 309 := by
    exact_mod_cast (by decide +kernel : 2 * (2 ^ 53 * 2 ^ 971) < 10 ^ 309)
  constructor
  · calc
      (10 : ℚ) ^ (-324 : ℤ) = (10 ^ 324)⁻¹ := by rw [zpow_neg]; rfl
      _ < (2 ^ 1074)⁻¹ := inv_strictAnti₀ (by positivity) leastPower
      _ = 2 ^ (-1074 : ℤ) := by rw [zpow_neg]; rfl
      _ ≤ 2 ^ exponent := least
      _ ≤ significand * 2 ^ exponent := le_mul_of_one_le_left unit.le some
  · calc
      (2 * (significand * 2 ^ exponent) : ℚ) ≤ 2 * (2 ^ 53 * 2 ^ (971 : ℤ)) := by
        apply mul_le_mul_of_nonneg_left _ (by norm_num)
        exact mul_le_mul small.le greatest unit.le (by positivity)
      _ < 10 ^ (309 : ℤ) := greatestPower

/-- A decimal with at least seventeen digits that is close to a number is read as the number. -/
theorem ofDecimal_of_close {digits : Nat} {shift : Int} (long : 10 ^ 16 ≤ digits)
    (least : -400 ≤ shift + 17)
    (close : |(digits * 10 ^ shift : ℚ) - significand * 2 ^ exponent| ≤
      significand * 2 ^ exponent / (2 * 10 ^ 16)) :
    ofDecimal false digits shift = .finite false significand exponent standard := by
  obtain ⟨-, upper⟩ := value_bounds standard nonzero
  have positive : (0 : ℚ) < significand * 2 ^ exponent :=
    mul_pos (by exact_mod_cast nonzero) (zpow_pos two_pos exponent)
  have isLong : 17 ≤ (Nat.toDigits 10 digits).length := by
    by_contra short
    have less := (Nat.length_toDigits_le_iff (by decide) (by decide : 0 < 16)).mp
      (by omega : (Nat.toDigits 10 digits).length ≤ 16)
    omega
  have power : 10 ^ ((Nat.toDigits 10 digits).length - 1) ≤ digits := by
    by_contra less
    have shorter := (Nat.length_toDigits_le_iff (by decide) (by omega)).mpr (not_le.mp less)
    omega
  have below : (Nat.toDigits 10 digits).length - 1 + shift < 309 := by
    have product : (10 : ℚ) ^ (((Nat.toDigits 10 digits).length - 1 : ℕ) + shift) <
        10 ^ (309 : ℤ) := by
      rw [zpow_add₀ (by norm_num), zpow_natCast]
      have powerRatio : (10 : ℚ) ^ ((Nat.toDigits 10 digits).length - 1) ≤ digits := by
        exact_mod_cast power
      have tenth : (0 : ℚ) < 10 ^ shift := zpow_pos (by norm_num) shift
      have twice : (significand * 2 ^ exponent / (2 * 10 ^ 16) : ℚ) ≤ significand * 2 ^ exponent :=
        div_le_self positive.le (by norm_num)
      calc
        (10 : ℚ) ^ ((Nat.toDigits 10 digits).length - 1) * 10 ^ shift ≤ digits * 10 ^ shift :=
          mul_le_mul_of_nonneg_right powerRatio tenth.le
        _ ≤ 2 * (significand * 2 ^ exponent) := by linarith [(abs_le.mp close).2]
        _ < 10 ^ (309 : ℤ) := upper
    have exponents := (zpow_lt_zpow_iff_right₀ (by norm_num)).mp product
    push_cast [Nat.cast_sub (by omega : 1 ≤ (Nat.toDigits 10 digits).length)] at exponents
    exact exponents
  obtain ⟨n, d, someDenominator, same⟩ := exists_ratio digits shift
  rw [ofDecimal_eq_ofRatio (Nat.lt_of_lt_of_le (by decide) long) (by omega) (by omega)
    someDenominator same]
  apply ofRatio_of_isNear standard nonzero someDenominator
  rw [same]
  exact isNear_of_close standard nonzero close

/-- One of the two neighbours with seventeen digits is read as the number. -/
theorem neighbour_of_seventeen {n d : Nat} (positive : 0 < d)
    (value : (n / d : ℚ) = significand * 2 ^ exponent) {p q : Nat} (someDenominator : 0 < q)
    (grid : (p / q : ℚ) = n / d / 10 ^ (leadingExponent n d - 16)) :
    ofDecimal false (p / q) (leadingExponent n d - 16) =
        .finite false significand exponent standard ∨
      ofDecimal false (p / q + 1) (leadingExponent n d - 16) =
        .finite false significand exponent standard := by
  obtain ⟨lower, -⟩ := value_bounds standard nonzero
  have positiveValue : (0 : ℚ) < n / d := by
    rw [value]
    exact mul_pos (by exact_mod_cast nonzero) (zpow_pos two_pos exponent)
  have someNumerator : 0 < n := by
    rcases Nat.eq_zero_or_pos n with rfl | some
    · simp at positiveValue
    · exact some
  obtain ⟨fits, notFar⟩ := leadingExponent_spec someNumerator positive
  generalize leadingExponent n d = leading at *
  have long : 10 ^ 16 ≤ p / q := by
    have ratio : (10 ^ 16 : ℚ) ≤ p / q := by
      rw [grid, le_div_iff₀ (zpow_pos (by norm_num) _), ← ten_pow_leading]
      exact fits
    rw [le_div_iff₀ (by exact_mod_cast someDenominator)] at ratio
    rw [Nat.le_div_iff_mul_le someDenominator]
    exact_mod_cast ratio
  have least : -400 ≤ leading - 16 + 17 := by
    have between : (10 : ℚ) ^ (-324 : ℤ) < 10 ^ (leading + 4) := by
      rw [← value] at lower
      exact lower.trans notFar
    have exponents := (zpow_lt_zpow_iff_right₀ (by norm_num)).mp between
    omega
  rcases near_floor_or_succ p someDenominator with below | above
  · exact .inl (ofDecimal_of_close standard nonzero long least
      (close_of_half value fits grid below))
  · exact .inr (ofDecimal_of_close standard nonzero (long.trans (Nat.le_succ _)) least
      (close_of_half value fits grid above))

theorem ofDecimal_shortest :
    ofDecimal false (shortest standard).digits
      (shortest standard).exponent = .finite false significand exponent standard := by
  have positive := ratio_pos significand exponent
  have value := ratio_value significand exponent
  unfold shortest
  dsimp only
  generalize (ratio significand exponent).1 = n at *
  generalize (ratio significand exponent).2 = d at *
  have found : ((List.range 17).findSome? fun i =>
      neighbour? (.finite false significand exponent standard) n d (leadingExponent n d)
        (i + 1)).isSome := by
    rw [List.isSome_findSome?, List.any_eq_true]
    refine ⟨16, by simp, ?_⟩
    rw [Option.isSome_iff_exists]
    apply exists_neighbour? positive
    intro p q someDenominator grid
    exact neighbour_of_seventeen standard nonzero positive value someDenominator grid
  obtain ⟨decimal, isFound⟩ := Option.isSome_iff_exists.mp found
  rw [isFound, Option.getD_some]
  obtain ⟨i, -, hit⟩ := List.exists_of_findSome?_eq_some isFound
  exact ofDecimal_of_neighbour? positive hit

theorem shortest_digits_pos : 0 < (shortest standard).digits := by
  by_contra zero
  have reads := ofDecimal_shortest standard nonzero
  rw [Nat.eq_zero_of_not_pos zero] at reads
  have isZero : significand = 0 := by
    injection reads with _ same _
    exact same.symm
  omega

end Seventeen

end OutlineSearch.Binary64
