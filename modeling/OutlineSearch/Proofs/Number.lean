import OutlineSearch.Number.Binary64

/-!
# The order of floating-point numbers

What is no number is neither less nor greater than anything, so "not less" is total, but
transitive only where the second of three is a number.  Sums of numbers that are not negative
are not negative.
-/

namespace OutlineSearch.Binary64

theorem not_lt_or_not_lt (x y : Binary64) : lt x y = false ∨ lt y x = false := by
  cases x with
  | nan => exact .inl rfl
  | infinite a =>
      cases y with
      | nan => exact .inl rfl
      | infinite b => cases a <;> cases b <;> simp [lt]
      | finite b n f other => cases a <;> simp [lt]
  | finite a m e standard =>
      cases y with
      | nan => exact .inl rfl
      | infinite b => cases b <;> simp [lt]
      | finite b n f other =>
          simp only [lt, decide_eq_false_iff_not]
          omega

theorem not_lt_trans {x y z : Binary64} (number : y ≠ .nan) (first : lt x y = false)
    (second : lt y z = false) : lt x z = false := by
  cases y with
  | nan => exact (number rfl).elim
  | infinite b =>
      cases x with
      | nan => rfl
      | infinite a => cases z <;> cases a <;> cases b <;> simp_all [lt]
      | finite a m e standard => cases z <;> cases b <;> simp_all [lt]
  | finite b n f other =>
      cases x with
      | nan => rfl
      | infinite a => cases z <;> cases a <;> simp_all [lt]
      | finite a m e standard =>
          cases z with
          | nan => rfl
          | infinite c => cases c <;> simp_all [lt]
          | finite c l g third =>
              simp only [lt, decide_eq_false_iff_not] at *
              omega

/-- Numbers of which neither is less have the same value. -/
theorem eq_iff_not_lt {x y : Binary64} (number : x ≠ .nan) (numberToo : y ≠ .nan) :
    eq x y = true ↔ lt x y = false ∧ lt y x = false := by
  cases x with
  | nan => exact (number rfl).elim
  | infinite a =>
      cases y with
      | nan => exact (numberToo rfl).elim
      | infinite b => cases a <;> cases b <;> simp [eq, lt]
      | finite b n f other => cases a <;> simp [eq, lt]
  | finite a m e standard =>
      cases y with
      | nan => exact (numberToo rfl).elim
      | infinite b => cases b <;> simp [eq, lt]
      | finite b n f other =>
          simp only [eq, lt, beq_iff_eq, decide_eq_false_iff_not]
          omega

/-- What is equal to something is a number. -/
theorem ne_nan_of_eq {x y : Binary64} (same : eq x y = true) : y ≠ .nan := by
  rintro rfl
  cases x <;> simp [eq] at same

/-- What compares with zero is a number. -/
theorem ne_nan_of_nonnegative {x : Binary64} (nonnegative : le .zero x = true) : x ≠ .nan := by
  rintro rfl
  cases nonnegative

/-- The same number, or the least of all in place of what is none. -/
def orLeast : Binary64 → Binary64
  | .nan => .infinite true
  | x => x

theorem orLeast_ne_nan (x : Binary64) : x.orLeast ≠ .nan := by
  cases x <;> simp [orLeast]

theorem orLeast_eq {x : Binary64} (number : x ≠ .nan) : x.orLeast = x := by
  cases x with
  | nan => exact (number rfl).elim
  | infinite _ => rfl
  | finite _ _ _ _ => rfl

/-! ## Numbers that are not negative -/

theorem nonnegative_finite_iff (negative : Bool) {significand : Nat} {exponent : Int}
    (standard : IsStandard significand exponent) :
    le .zero (.finite negative significand exponent standard) = true ↔
      0 ≤ units negative significand exponent := by
  have zero : units false 0 leastExponent = 0 := by decide
  simp only [le, lt, eq, Binary64.zero, signedZero, zero, Bool.or_eq_true, decide_eq_true_eq,
    beq_iff_eq]
  omega

theorem nonnegative_finite {significand : Nat} {exponent : Int}
    (standard : IsStandard significand exponent) :
    le .zero (.finite false significand exponent standard) = true := by
  rw [nonnegative_finite_iff, units, signed, if_neg Bool.false_ne_true]
  exact Int.natCast_nonneg _

theorem nonnegative_ofParts (significand : Nat) (exponent : Int) :
    le .zero (ofParts false significand exponent) = true := by
  unfold ofParts
  split
  · exact nonnegative_finite _
  · rfl

theorem nonnegative_ofRatio (numerator denominator : Nat) :
    le .zero (ofRatio false numerator denominator) = true := by
  unfold ofRatio
  split
  · exact nonnegative_finite _
  · dsimp only
    split <;> exact nonnegative_ofParts _ _

theorem nonnegative_add {x y : Binary64} (first : le .zero x = true)
    (second : le .zero y = true) : le .zero (add x y) = true := by
  cases x with
  | nan => cases first
  | infinite a =>
      cases y with
      | nan => cases second
      | infinite b =>
          cases a with
          | true => cases first
          | false =>
              cases b with
              | true => cases second
              | false => rfl
      | finite b n f other => exact first
  | finite a m e standard =>
      cases y with
      | nan => cases second
      | infinite b => exact second
      | finite b n f other =>
          rw [nonnegative_finite_iff] at first second
          rw [add]
          split
          · rename_i none
            have unsigned : units (a && b) 0 leastExponent = 0 := by
              cases a <;> cases b <;> decide
            exact (nonnegative_finite_iff _ _).mpr (Int.le_of_eq unsigned.symm)
          · have positive : decide (units a m e + units b n f < 0) = false := by
              rw [decide_eq_false_iff_not]
              omega
            rw [positive]
            exact nonnegative_ofRatio _ _

end OutlineSearch.Binary64
