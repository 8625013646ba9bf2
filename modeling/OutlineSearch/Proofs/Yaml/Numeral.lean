import Mathlib.Data.List.TakeWhile
import OutlineSearch.Proofs.Digits
import OutlineSearch.Proofs.LowerCase
import OutlineSearch.Proofs.Number.Shortest
import OutlineSearch.Proofs.Pieces
import OutlineSearch.Yaml.Printer
import OutlineSearch.Yaml.Value

/-!
# Numbers as plain scalars

A number that is written without quotes looks like a number of its type, and is read back as
the same number.  For an integer the numeral must not have more digits than the reader allows.
-/

namespace OutlineSearch.Text

theorem ne_of_isDigit {c d : Char} (digit : c.isDigit = true) (other : d.isDigit = false) :
    c ≠ d := by
  rintro rfl
  rw [digit] at other
  cases other

theorem ofNat_ne_nil (n : Nat) : ofNat n ≠ [] := Nat.toDigits_ne_nil

/-- The numeral of a positive number does not begin with a zero. -/
theorem head?_ofNat_ne_zero {n : Nat} (positive : 0 < n) : (ofNat n).head? ≠ some '0' := by
  induction n using Nat.strongRecOn with
  | ind n induction =>
      unfold ofNat at induction ⊢
      by_cases small : n < 10
      · have digits : ∀ n < 10, 0 < n → [Nat.digitChar n].head? ≠ some '0' := by decide
        rw [Nat.toDigits_of_lt_base small]
        exact digits n small positive
      · have smaller : n / 10 < n := by omega
        have rest := induction (n / 10) smaller (by omega)
        have nonempty : Nat.toDigits 10 (n / 10) ≠ [] := Nat.toDigits_ne_nil
        rw [Nat.toDigits_of_base_le (by decide) (by omega), List.head?_append_of_ne_nil _ nonempty]
        exact rest

theorem digitsValue_append (front back : Text) :
    digitsValue (front ++ back) =
      back.foldl (fun n c => 10 * n + (digitValue? c).getD 0) (digitsValue front) := by
  rw [digitsValue, List.foldl_append]
  rfl

theorem digitsValue_append_zeros (text : Text) (zeros : Nat) :
    digitsValue (text ++ List.replicate zeros '0') = digitsValue text * 10 ^ zeros := by
  induction zeros with
  | zero => simp
  | succ zeros induction =>
      have zero : (digitValue? '0').getD 0 = 0 := by decide
      rw [List.replicate_succ', ← List.append_assoc, digitsValue_append, induction]
      simp only [List.foldl_cons, List.foldl_nil, zero]
      ring

end OutlineSearch.Text

namespace OutlineSearch.Yaml

open Text

/-! ## Integers -/

theorem isGrouped_of_isDigit {c : Char} (digit : c.isDigit = true) :
    Tag.isGrouped c = true := by
  rw [Tag.isGrouped, digit, Bool.true_or]

theorem unsigned_of_isDigit {c : Char} (digit : c.isDigit = true) (rest : Text) :
    Tag.unsigned (c :: rest) = c :: rest := by
  have notPlus := ne_of_isDigit digit (show '+'.isDigit = false by decide)
  have notMinus := ne_of_isDigit digit (show '-'.isDigit = false by decide)
  unfold Tag.unsigned
  split <;> simp_all

theorem boolWords_of_isDigit {c : Char} (digit : c.isDigit = true) (rest : Text) :
    (Tag.boolWords.any fun w => c :: rest = w.toList) = false := by
  have letters : ∀ w ∈ Tag.boolWords, w.toList.head?.any Char.isDigit = false := by decide
  rw [List.any_eq_false]
  intro w member same
  rw [decide_eq_true_eq] at same
  have notDigit := letters w member
  rw [← same, List.head?_cons, Option.any_some, digit] at notDigit
  cases notDigit

variable {n : Nat}

theorem isFloat_ofNat (n : Nat) : Tag.isFloat (Text.ofNat n) = false := by
  have digits : ∀ c ∈ Text.ofNat n, c.isDigit = true := fun _ => isDigit_of_mem_ofNat
  have noPoint : '.' ∉ Text.ofNat n := fun member => absurd (digits '.' member) (by decide)
  obtain ⟨c, rest, shape⟩ := List.exists_cons_of_ne_nil (ofNat_ne_nil n)
  rw [shape] at digits noPoint ⊢
  have first := digits c List.mem_cons_self
  have notPoint : c ≠ '.' := ne_of_isDigit first (by decide)
  have grouped : ∀ d ∈ c :: rest, Tag.isGrouped d = true :=
    fun d member => isGrouped_of_isDigit (digits d member)
  have decimal : Tag.isDecimal (c :: rest) = false := by
    rw [Tag.isDecimal, List.dropWhile_eq_nil_iff.mpr grouped]
  have fraction : Tag.isFraction (c :: rest) = false := by
    unfold Tag.isFraction
    split <;> simp_all
  have sexagesimal : Tag.isSexagesimal (c :: rest) = false := by
    unfold Tag.isSexagesimal
    dsimp only
    split
    · have absent : (c :: rest).contains '.' = false := by
        simpa only [List.contains_eq_mem, decide_eq_false_iff_not] using noPoint
      rw [absent, Bool.false_and, Bool.false_and, Bool.false_and]
    · rfl
  have words : ([".inf", ".Inf", ".INF"].any fun w => c :: rest = w.toList) = false ∧
      ([".nan", ".NaN", ".NAN"].any fun w => c :: rest = w.toList) = false := by
    constructor <;> simp [notPoint]
  rw [Tag.isFloat, unsigned_of_isDigit first, decimal, fraction, sexagesimal, words.1, words.2]
  rfl

theorem isInt_ofNat (n : Nat) : Tag.isInt (Text.ofNat n) = true := by
  have digits : ∀ c ∈ Text.ofNat n, c.isDigit = true := fun _ => isDigit_of_mem_ofNat
  have noColon : ':' ∉ Text.ofNat n := fun member => absurd (digits ':' member) (by decide)
  rcases Nat.eq_zero_or_pos n with rfl | positive
  · decide
  · have notZero := head?_ofNat_ne_zero positive
    obtain ⟨c, rest, shape⟩ := List.exists_cons_of_ne_nil (ofNat_ne_nil n)
    rw [shape] at digits noColon notZero ⊢
    rw [List.head?_cons, Ne, Option.some_inj] at notZero
    have first := digits c List.mem_cons_self
    have group : Tag.isGroup (c :: rest) = true := by
      rw [Tag.isGroup, first, Bool.true_and, List.all_eq_true]
      exact fun d member => isGrouped_of_isDigit (digits d (List.mem_cons_of_mem c member))
    unfold Tag.isInt
    rw [unsigned_of_isDigit first]
    split
    · simp_all
    · simp_all
    · simp_all
    · rw [splitOnChar_of_notMem noColon]
      simp [group]

theorem ofPlain_ofNat (n : Nat) : Tag.ofPlain (Text.ofNat n) = .int := by
  have digits : ∀ c ∈ Text.ofNat n, c.isDigit = true := fun _ => isDigit_of_mem_ofNat
  have float := isFloat_ofNat n
  have int := isInt_ofNat n
  obtain ⟨c, rest, shape⟩ := List.exists_cons_of_ne_nil (ofNat_ne_nil n)
  rw [shape] at digits float int ⊢
  rw [Tag.ofPlain, boolWords_of_isDigit (digits c List.mem_cons_self), float, int]
  rfl

theorem digitIn_of_isDigit {c : Char} (digit : c.isDigit = true) :
    digitIn c = (digitValue? c).getD 0 ∧ digitIn c < 10 := by
  have range := (isDigit_iff c).mp digit
  rw [digitIn, digitValue?_of_isDigit digit]
  constructor
  · rfl
  · dsimp only
    omega

theorem any_digitIn_of_digits {t : Text} (digits : ∀ c ∈ t, c.isDigit = true) :
    (t.any fun d => 10 ≤ digitIn d) = false := by
  rw [List.any_eq_false]
  intro d member
  have small := (digitIn_of_isDigit (digits d member)).2
  simp only [decide_eq_true_eq]
  omega

theorem foldl_digitIn_of_digits {t : Text} (digits : ∀ c ∈ t, c.isDigit = true) :
    t.foldl (fun n d => 10 * n + digitIn d) 0 = digitsValue t := by
  rw [digitsValue]
  refine List.foldl_ext _ _ _ fun m d member => ?_
  rw [(digitIn_of_isDigit (digits d member)).1]

theorem integerIn_ofNat {limit : Option Nat} (positive : 0 < n)
    (fits : ∀ most ∈ limit, (Text.ofNat n).length ≤ most) :
    integerIn limit 10 (Text.ofNat n) = .ok (n : Int) := by
  have digits : ∀ c ∈ Text.ofNat n, c.isDigit = true := fun _ => isDigit_of_mem_ofNat
  have notZero := head?_ofNat_ne_zero positive
  have value := digitsValue_ofNat n
  obtain ⟨c, rest, shape⟩ := List.exists_cons_of_ne_nil (ofNat_ne_nil n)
  rw [shape] at digits notZero value fits ⊢
  rw [List.head?_cons, Ne, Option.some_inj] at notZero
  have first := digits c List.mem_cons_self
  have notPlus := ne_of_isDigit first (show '+'.isDigit = false by decide)
  have notMinus := ne_of_isDigit first (show '-'.isDigit = false by decide)
  have untrimmed : trimNumeral (c :: rest) = c :: rest :=
    trimNumeral_of_not_blank fun d member =>
      isBlank_of_isDecimal (isDecimal_of_isDigit (digits d member))
  have unmarked : withoutMark 10 (c :: rest) = c :: rest := by
    unfold withoutMark
    split <;> simp_all
  have inBase := any_digitIn_of_digits digits
  have sameValue := (foldl_digitIn_of_digits digits).trans value
  unfold integerIn
  rw [untrimmed]
  split
  rename_i negative unsigned signs
  obtain ⟨rfl, rfl⟩ : false = negative ∧ c :: rest = unsigned := by
    split at signs <;> simp_all
  rw [unmarked]
  simp only [inBase, sameValue, List.isEmpty_cons, Bool.or_self, if_neg Bool.false_ne_true]
  cases limit with
  | none => rfl
  | some most =>
      have short := fits most rfl
      have notLonger : ¬most < (c :: rest).length := by omega
      simp only [notLonger, decide_true, decide_false, Bool.and_false, if_neg Bool.false_ne_true]
      rfl

/-- A natural number is read back from its numeral. -/
theorem intOf_ofNat {limit : Option Nat} (fits : ∀ most ∈ limit, (Text.ofNat n).length ≤ most) :
    intOf limit (Text.ofNat n) = .ok (.int n) := by
  rcases Nat.eq_zero_or_pos n with rfl | positive
  · rfl
  · have digits : ∀ c ∈ Text.ofNat n, c.isDigit = true := fun _ => isDigit_of_mem_ofNat
    have notZero := head?_ofNat_ne_zero positive
    have integer := integerIn_ofNat positive fits
    obtain ⟨c, rest, shape⟩ := List.exists_cons_of_ne_nil (ofNat_ne_nil n)
    rw [shape] at digits notZero integer ⊢
    rw [List.head?_cons, Ne, Option.some_inj] at notZero
    have first := digits c List.mem_cons_self
    have notPlus := ne_of_isDigit first (show '+'.isDigit = false by decide)
    have notMinus := ne_of_isDigit first (show '-'.isDigit = false by decide)
    have ungrouped : (c :: rest).filter (· != '_') = c :: rest := by
      rw [List.filter_eq_self]
      intro d member
      simpa using ne_of_isDigit (digits d member) (show '_'.isDigit = false by decide)
    have noColon : (c :: rest).contains ':' = false := by
      simp only [List.contains_eq_mem, decide_eq_false_iff_not]
      exact fun member => absurd (digits ':' member) (by decide)
    unfold intOf
    rw [ungrouped]
    dsimp only
    have notZeroText : ¬c :: rest = ['0'] := by simp [notZero]
    split
    · simp_all
    · simp_all
    · simp only [List.isEmpty_cons, Bool.or_self, if_neg Bool.false_ne_true, if_neg notZeroText]
      split
      · simp_all
      · simp_all
      · simp_all
      · rw [noColon, if_neg Bool.false_ne_true, integer]
        change Except.ok (Data.int (1 * n)) = _
        rw [one_mul]

end OutlineSearch.Yaml
