import Mathlib.Data.Nat.Digits.Defs
import OutlineSearch.Text.Numeral

/-!
# Digits and numerals

The numeral of a number is read back as the number, and filling it up with zeros changes its
length only.  No decimal digit is blank or a letter, of whatever script it is, and digits of
any script are a numeral.
-/

namespace OutlineSearch.Text

theorem isDigit_iff (c : Char) : c.isDigit = true ↔ 48 ≤ c.toNat ∧ c.toNat ≤ 57 := by
  simp only [Char.isDigit, Bool.and_eq_true, decide_eq_true_eq, ge_iff_le,
    UInt32.le_iff_toNat_le]
  exact Iff.rfl

theorem digitValue?_of_isDigit {c : Char} (digit : c.isDigit = true) :
    digitValue? c = some (c.toNat - 48) := by
  have range := (isDigit_iff c).mp digit
  have ascii : c.toNat < 128 := by omega
  simp [digitValue?, ascii, digit]

theorem isDecimal_of_isDigit {c : Char} (digit : c.isDigit = true) : isDecimal c = true := by
  rw [isDecimal, digitValue?_of_isDigit digit, Option.isSome_some]

/-- A decimal digit is one of ten characters from a zero on. -/
theorem exists_zero_of_isDecimal {c : Char} (decimal : isDecimal c = true) :
    ∃ first ∈ 48 :: digitZeros, first ≤ c.toNat ∧ c.toNat < first + 10 := by
  unfold isDecimal digitValue? at decimal
  split at decimal
  · by_cases digit : c.isDigit = true
    · have range := (isDigit_iff c).mp digit
      exact ⟨48, by simp, by omega, by omega⟩
    · simp [digit] at decimal
  · rw [Option.isSome_map, List.find?_isSome] at decimal
    obtain ⟨first, member, inRun⟩ := decimal
    simp only [Bool.and_eq_true, decide_eq_true_eq] at inRun
    exact ⟨first, List.mem_cons_of_mem 48 member, inRun.1, inRun.2⟩

theorem digits_apart_from_blanks : ∀ first ∈ 48 :: digitZeros, ∀ range ∈ blankRanges,
    range.2 < first ∨ first + 10 ≤ range.1 := by
  decide +kernel

theorem isBlank_of_isDecimal {c : Char} (decimal : isDecimal c = true) :
    isBlank c = false := by
  obtain ⟨first, isZero, above, below⟩ := exists_zero_of_isDecimal decimal
  rw [isBlank, inRanges, List.any_eq_false]
  rintro range member
  have apart := digits_apart_from_blanks first isZero range member
  simp only [Bool.and_eq_true, decide_eq_true_eq]
  omega

theorem digits_apart_from_letters : ∀ first ∈ digitZeros, ∀ range ∈ letterRanges,
    range.2 < first ∨ first + 10 ≤ range.1 := by
  decide +kernel

theorem toNat_lt_of_isAlpha {c : Char} (alpha : c.isAlpha = true) : c.toNat < 128 := by
  have bound : c.val ≤ 'Z'.val ∨ c.val ≤ 'z'.val := by
    rcases Bool.or_eq_true_iff.mp alpha with upper | lower
    · exact .inl (of_decide_eq_true upper).2
    · exact .inr (of_decide_eq_true (Bool.and_eq_true_iff.mp lower).2)
  rw [UInt32.le_iff_toNat_le, UInt32.le_iff_toNat_le] at bound
  rcases bound with upper | lower
  · exact Nat.lt_of_le_of_lt upper (by decide)
  · exact Nat.lt_of_le_of_lt lower (by decide)

theorem isAlpha_of_isDigit {c : Char} (digit : c.isDigit = true) : c.isAlpha = false := by
  have range := (isDigit_iff c).mp digit
  have digits : ∀ code < 58, 48 ≤ code → (Char.ofNat code).isAlpha = false := by decide
  rw [← Char.ofNat_toNat c]
  exact digits c.toNat (by omega) range.1

theorem isLetter_of_isDecimal {c : Char} (decimal : isDecimal c = true) :
    isLetter c = false := by
  unfold isLetter
  unfold isDecimal digitValue? at decimal
  split at decimal
  case isTrue ascii =>
    rw [if_pos ascii]
    by_cases digit : c.isDigit = true
    · exact isAlpha_of_isDigit digit
    · simp [digit] at decimal
  case isFalse beyond =>
    rw [if_neg beyond, inRanges, List.any_eq_false]
    rw [Option.isSome_map, List.find?_isSome] at decimal
    obtain ⟨first, isZero, inRun⟩ := decimal
    simp only [Bool.and_eq_true, decide_eq_true_eq] at inRun
    rintro range member
    have apart := digits_apart_from_letters first isZero range member
    simp only [Bool.and_eq_true, decide_eq_true_eq]
    omega

/-- No text is both letters and digits. -/
theorem isLetters_of_isDigits {text : Text} (digits : isDigits text = true) :
    isLetters text = false := by
  cases text with
  | nil => rfl
  | cons c rest =>
      simp only [isDigits, List.isEmpty_cons, Bool.not_false, Bool.true_and, List.all_cons,
        Bool.and_eq_true] at digits
      simp [isLetters, isLetter_of_isDecimal digits.1]

theorem isDigit_of_mem_ofNat {n : Nat} {c : Char} (member : c ∈ ofNat n) :
    c.isDigit = true :=
  Nat.isDigit_of_mem_toDigits (by decide) (by decide) member

theorem isDigit_of_mem_padded {width n : Nat} {c : Char} (member : c ∈ padded width n) :
    c.isDigit = true := by
  rw [padded, List.mem_append] at member
  rcases member with zero | digit
  · rw [(List.mem_replicate.mp zero).2]
    decide
  · exact isDigit_of_mem_ofNat digit

theorem length_padded {width n : Nat} (positive : 0 < width) (bound : n < 10 ^ width) :
    (padded width n).length = width := by
  have short := (Nat.length_toDigits_le_iff (b := 10) (by decide) positive).mpr bound
  simp only [padded, ofNat, List.length_append, List.length_replicate]
  omega

theorem fits_iff_lt (n : Nat) : fits n = true ↔ n < 10 ^ maxDigits := by
  rw [fits, decide_eq_true_iff]
  exact Nat.length_toDigits_le_iff (by decide) (by decide)

/-- A numeral that is long enough is not filled up. -/
theorem padded_eq_ofNat {width n : Nat} (long : 10 ^ width ≤ n) :
    padded (width + 1) n = ofNat n := by
  have notShort : ¬(ofNat n).length ≤ width := by
    cases width with
    | zero =>
        have positive : 0 < (ofNat n).length := Nat.length_toDigits_pos
        omega
    | succ width =>
        intro short
        have bound := (Nat.length_toDigits_le_iff (b := 10) (by decide)
          (Nat.succ_pos width)).mp short
        omega
  have noZeros : width + 1 - (ofNat n).length = 0 := by omega
  rw [padded, noZeros, List.replicate_zero, List.nil_append]

/-- ASCII digits have the values that Lean's own reader gives them. -/
theorem foldl_digitValue?_eq_ofDigitChars {text : Text}
    (digits : ∀ c ∈ text, c.isDigit = true) (start : Nat) :
    text.foldl (fun n c => 10 * n + (digitValue? c).getD 0) start =
      Nat.ofDigitChars 10 text start := by
  unfold Nat.ofDigitChars
  induction text generalizing start with
  | nil => rfl
  | cons c rest induction =>
      have first := digits c List.mem_cons_self
      rw [List.foldl_cons, List.foldl_cons, digitValue?_of_isDigit first, Option.getD_some]
      exact induction (fun d member => digits d (List.mem_cons_of_mem c member)) _

theorem digitsValue_ofNat (n : Nat) : digitsValue (ofNat n) = n := by
  rw [digitsValue, foldl_digitValue?_eq_ofDigitChars fun _ => isDigit_of_mem_ofNat]
  exact Nat.ofDigitChars_ten_toDigits

theorem digitsValue_zeros_append (count : Nat) (text : Text) :
    digitsValue (List.replicate count '0' ++ text) = digitsValue text := by
  induction count with
  | zero => rfl
  | succ count induction =>
      rw [List.replicate_succ, List.cons_append]
      exact induction

theorem digitsValue_padded (width n : Nat) : digitsValue (padded width n) = n := by
  rw [padded, digitsValue_zeros_append, digitsValue_ofNat]

/-! ## Digits as a numeral -/

theorem ungroupedDigits?_of_isDecimal {text : Text} (nonempty : text ≠ [])
    (decimal : ∀ c ∈ text, isDecimal c = true) : ungroupedDigits? text = some text := by
  have notDigit : isDecimal '_' = false := by decide +kernel
  induction text with
  | nil => exact (nonempty rfl).elim
  | cons c rest induction =>
      rw [List.forall_mem_cons] at decimal
      cases rest with
      | nil => simp [ungroupedDigits?, decimal.1]
      | cons d rest =>
          have notUnderscore : d ≠ '_' := by
            rintro rfl
            rw [decimal.2 '_' List.mem_cons_self] at notDigit
            cases notDigit
          have more := induction (List.cons_ne_nil d rest) decimal.2
          simp [ungroupedDigits?, notUnderscore, decimal.1, more]

theorem isBlank_of_isAsciiSpace {c : Char} (space : isAsciiSpace c = true) : isBlank c = true := by
  simp only [isAsciiSpace, Bool.or_eq_true, beq_iff_eq, Bool.and_eq_true,
    decide_eq_true_eq] at space
  rcases space with rfl | range
  · decide
  · rw [isBlank, inRanges, List.any_eq_true]
    exact ⟨(9, 13), by simp [blankRanges], by simpa using range⟩

theorem trimNumeral_of_not_blank {text : Text} (solid : ∀ c ∈ text, isBlank c = false) :
    trimNumeral text = text := by
  have untouched : ∀ {blank : Char → Bool}, (∀ c ∈ text, blank c = false) →
      dropRightWhile blank (text.dropWhile blank) = text := by
    intro blank none
    have front : ∀ {list : Text}, (∀ c ∈ list, blank c = false) → list.dropWhile blank = list := by
      intro list none
      cases list with
      | nil => rfl
      | cons c rest => exact List.dropWhile_cons_of_neg (by simp [none c List.mem_cons_self])
    rw [front none, dropRightWhile, front fun c member => none c (List.mem_reverse.mp member),
      List.reverse_reverse]
  rw [trimNumeral]
  split
  · refine untouched fun c member => ?_
    by_contra space
    have blank := isBlank_of_isAsciiSpace (Bool.eq_true_of_not_eq_false space)
    rw [solid c member] at blank
    cases blank
  · exact untouched solid

theorem asciiDigit_eq_self {c : Char} (ascii : c.toNat < 128) : asciiDigit c = c := by
  rw [asciiDigit, digitValue?, if_pos ascii]
  by_cases digit : c.isDigit = true
  · have range := (isDigit_iff c).mp digit
    rw [if_pos digit]
    dsimp only
    rw [Nat.add_sub_cancel' range.1, Char.ofNat_toNat]
  · rw [if_neg digit]

/-- The integer that a text denotes, however many digits that has. -/
def integer? (text : Text) : Option Int :=
  let (negative, digits) : Bool × Text := match text.trimNumeral with
    | '-' :: rest => (true, rest)
    | '+' :: rest => (false, rest)
    | rest => (false, rest)
  (ungroupedDigits? digits).map fun digits =>
    let n := digitsValue digits
    if negative then -(n : Int) else n

theorem integer?_of_isDigits {text : Text} (digits : text.isDigits = true) :
    text.integer? = some (text.digitsValue : Int) := by
  have sign : isDecimal '-' = false ∧ isDecimal '+' = false := by decide +kernel
  simp only [isDigits, Bool.and_eq_true, Bool.not_eq_true', List.isEmpty_eq_false_iff,
    List.all_eq_true] at digits
  obtain ⟨nonempty, decimal⟩ := digits
  obtain ⟨c, rest, rfl⟩ := List.exists_cons_of_ne_nil nonempty
  have first := decimal c List.mem_cons_self
  have unsigned : c ≠ '-' ∧ c ≠ '+' := by
    constructor
    · rintro rfl
      rw [sign.1] at first
      cases first
    · rintro rfl
      rw [sign.2] at first
      cases first
  rw [integer?, trimNumeral_of_not_blank fun c member => isBlank_of_isDecimal (decimal c member)]
  simp [unsigned.1, unsigned.2, ungroupedDigits?_of_isDecimal nonempty decimal]

end OutlineSearch.Text
