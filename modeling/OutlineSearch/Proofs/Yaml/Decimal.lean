import OutlineSearch.Proofs.Timestamp.Reading
import OutlineSearch.Proofs.Yaml.Numeral

/-!
# Floating-point numbers as plain scalars

The text of a finite number is a sign, digits, a point, more digits and perhaps an exponent.
Such a text looks like a floating-point number and like nothing else, and it is read back as
the number, because the digits are those of the shortest decimal that stands for it.
-/

namespace OutlineSearch.Yaml

open Text

/-- An exponent as it stands at the end of a number. -/
def exponentText (exponent : Int) : Text :=
  'e' :: (if exponent < 0 then '-' else '+') :: Text.padded 2 exponent.natAbs

/-- A decimal that is written with a point. -/
structure Pointed where
  whole : Text
  fraction : Text
  exponent : Option Int

namespace Pointed

/-- The mark of the exponent, if there is one. -/
def mark (p : Pointed) : Text := (p.exponent.map exponentText).getD []

/-- The text of a decimal without its sign. -/
def text (p : Pointed) : Text := p.whole ++ '.' :: (p.fraction ++ p.mark)

/-- The number that a decimal stands for. -/
def value (p : Pointed) : Binary64 :=
  .ofDecimal false (digitsValue (p.whole ++ p.fraction)) (p.exponent.getD 0 - p.fraction.length)

/-- The parts of a decimal are digits, and there are some in front of the point. -/
structure Proper (p : Pointed) : Prop where
  someDigits : p.whole ≠ []
  whole : ∀ c ∈ p.whole, c.isDigit = true
  fraction : ∀ c ∈ p.fraction, c.isDigit = true

end Pointed

theorem padded_ne_nil (width n : Nat) : Text.padded width n ≠ [] := by
  rw [padded]
  exact List.append_ne_nil_of_right_ne_nil _ (ofNat_ne_nil n)

theorem readExponent?_exponentText (exponent : Int) :
    Field.readExponent? (exponentText exponent) = some exponent := by
  have digits : (padded 2 exponent.natAbs).all Char.isDigit = true :=
    List.all_eq_true.mpr fun _ => isDigit_of_mem_padded
  have someDigits : (padded 2 exponent.natAbs).isEmpty = false := by
    rw [List.isEmpty_eq_false_iff]
    exact padded_ne_nil 2 exponent.natAbs
  rcases lt_or_ge exponent 0 with below | above
  · simp only [exponentText, Field.readExponent?, if_pos below]
    simp [digits, someDigits, digitsValue_padded, Binary64.signed, abs_of_neg below]
  · simp only [exponentText, Field.readExponent?, if_neg (Int.not_lt.mpr above)]
    simp [digits, someDigits, digitsValue_padded, Binary64.signed, above]

theorem isExponent_exponentText (exponent : Int) :
    Tag.isExponent (exponentText exponent) = true := by
  have digits : (padded 2 exponent.natAbs).all Char.isDigit = true :=
    List.all_eq_true.mpr fun _ => isDigit_of_mem_padded
  have someDigits : (padded 2 exponent.natAbs).isEmpty = false := by
    rw [List.isEmpty_eq_false_iff]
    exact padded_ne_nil 2 exponent.natAbs
  simp only [exponentText, Tag.isExponent, digits, someDigits]
  split <;> rfl

/-- Cuts a text in front of the first character that is of another kind. -/
theorem takeWhile_append_stop {p : Char → Bool} {front back : Text}
    (all : ∀ c ∈ front, p c = true) (stop : ∀ c ∈ back.head?, p c = false) :
    (front ++ back).takeWhile p = front ∧ (front ++ back).dropWhile p = back := by
  rw [List.takeWhile_append_of_pos all, List.dropWhile_append_of_pos all]
  cases back with
  | nil => simp
  | cons c rest => simp [stop c rfl]

namespace Pointed

variable {p : Pointed}

theorem readExponent?_mark (p : Pointed) :
    Field.readExponent? p.mark = some (p.exponent.getD 0) := by
  unfold mark
  cases p.exponent with
  | none => rfl
  | some exponent => exact readExponent?_exponentText exponent

theorem isExponent_mark (p : Pointed) : Tag.isExponent p.mark = true := by
  unfold mark
  cases p.exponent with
  | none => rfl
  | some exponent => exact isExponent_exponentText exponent

theorem head?_mark {c : Char} (p : Pointed) (first : c ∈ p.mark.head?) : c = 'e' := by
  unfold mark at first
  cases shape : p.exponent with
  | none => simp [shape] at first
  | some exponent => simpa [shape, exponentText, eq_comm] using first

theorem mem_mark {c : Char} (p : Pointed) (member : c ∈ p.mark) :
    c.isDigit = true ∨ c = 'e' ∨ c = '-' ∨ c = '+' := by
  unfold mark at member
  cases shape : p.exponent with
  | none => simp [shape] at member
  | some exponent =>
      simp only [shape, Option.map_some, Option.getD_some, exponentText, List.mem_cons] at member
      rcases member with rfl | sign | digit
      · exact .inr (.inl rfl)
      · split at sign
        · exact .inr (.inr (.inl sign))
        · exact .inr (.inr (.inr sign))
      · exact .inl (isDigit_of_mem_padded digit)

theorem Proper.mem_text (proper : p.Proper) {c : Char} (member : c ∈ p.text) :
    c.isDigit = true ∨ c = '.' ∨ c = 'e' ∨ c = '-' ∨ c = '+' := by
  rw [text, List.mem_append, List.mem_cons, List.mem_append] at member
  rcases member with digit | point | digit | inMark
  · exact .inl (proper.whole c digit)
  · exact .inr (.inl point)
  · exact .inl (proper.fraction c digit)
  · rcases p.mem_mark inMark with digit | other
    · exact .inl digit
    · exact .inr (.inr other)

theorem Proper.exists_first (proper : p.Proper) :
    ∃ c rest, p.text = c :: rest ∧ c.isDigit = true := by
  obtain ⟨c, rest, shape⟩ := List.exists_cons_of_ne_nil proper.someDigits
  refine ⟨c, rest ++ '.' :: (p.fraction ++ p.mark), ?_, ?_⟩
  · rw [text, shape, List.cons_append]
  · exact proper.whole c (by rw [shape]; exact List.mem_cons_self)

theorem Proper.readDigits? (proper : p.Proper) :
    Field.readDigits? p.text = some (p.whole, p.fraction, p.mark) := by
  have notDigit : ∀ c ∈ p.mark.head?, c.isDigit = false := by
    intro c first
    rw [p.head?_mark first]
    decide
  have point : ∀ c ∈ ('.' :: (p.fraction ++ p.mark)).head?, c.isDigit = false := by simp
  have whole := takeWhile_append_stop proper.whole point
  have fraction := takeWhile_append_stop proper.fraction notDigit
  have someDigits : p.whole.isEmpty = false := List.isEmpty_eq_false_iff.mpr proper.someDigits
  rw [Field.readDigits?, text, whole.1, whole.2]
  simp only [fraction.1, fraction.2, someDigits, Bool.false_and, if_neg Bool.false_ne_true]

theorem Proper.readDecimal? (proper : p.Proper) :
    Field.readDecimal? false p.text = some p.value := by
  rw [Field.readDecimal?, proper.readDigits?]
  dsimp only
  rw [p.readExponent?_mark]
  rfl

theorem Proper.not_blank (proper : p.Proper) {c : Char} (member : c ∈ p.text) :
    Text.isBlank c = false := by
  rcases proper.mem_text member with digit | rfl | rfl | rfl | rfl
  · exact isBlank_of_isDecimal (isDecimal_of_isDigit digit)
  all_goals decide

theorem Proper.asciiDigits_text (proper : p.Proper) :
    p.text.trimNumeral.map asciiDigit = p.text := by
  rw [trimNumeral_of_not_blank fun _ => proper.not_blank]
  have ascii : ∀ d ∈ p.text, asciiDigit d = id d := by
    intro d member
    apply asciiDigit_eq_self
    rcases proper.mem_text member with digit | rfl | rfl | rfl | rfl
    · have range := (isDigit_iff d).mp digit
      omega
    all_goals decide
  rw [List.map_congr_left ascii, List.map_id]

theorem Proper.notMem (proper : p.Proper) {c : Char} (notDigit : c.isDigit = false)
    (other : c ≠ '.' ∧ c ≠ 'e' ∧ c ≠ '-' ∧ c ≠ '+') : c ∉ p.text := by
  intro member
  rcases proper.mem_text member with digit | point | letter | minus | plus
  · rw [digit] at notDigit
    cases notDigit
  · exact other.1 point
  · exact other.2.1 letter
  · exact other.2.2.1 minus
  · exact other.2.2.2 plus

theorem Proper.contains_eq_false (proper : p.Proper) {c : Char} (notDigit : c.isDigit = false)
    (other : c ≠ '.' ∧ c ≠ 'e' ∧ c ≠ '-' ∧ c ≠ '+') : p.text.contains c = false := by
  simpa only [List.contains_eq_mem, decide_eq_false_iff_not] using proper.notMem notDigit other

/-- A word that begins with a letter is no decimal. -/
theorem Proper.toLower_ne (proper : p.Proper) {word : String} {c : Char} {rest : List Char}
    (letters : word.toList = c :: rest) (notDigit : c.isDigit = false) :
    String.ofList (p.text.map Char.toLower) ≠ word := by
  intro same
  obtain ⟨d, more, shape, digit⟩ := proper.exists_first
  have range := (isDigit_iff d).mp digit
  have lower : d.toLower = d := toLower_eq_self (by omega)
  have lists := congrArg String.toList same
  rw [String.toList_ofList, shape, letters, List.map_cons, lower, List.cons.injEq] at lists
  rw [← lists.1, digit] at notDigit
  cases notDigit

theorem Proper.readFloat? (proper : p.Proper) : Field.readFloat? p.text = some p.value := by
  obtain ⟨c, rest, shape, digit⟩ := proper.exists_first
  have notPlus := ne_of_isDigit digit (show '+'.isDigit = false by decide)
  have notMinus := ne_of_isDigit digit (show '-'.isDigit = false by decide)
  have read := proper.readDecimal?
  have notInf : String.ofList (p.text.map Char.toLower) ≠ "inf" :=
    proper.toLower_ne (c := 'i') rfl (by decide)
  have notInfinity : String.ofList (p.text.map Char.toLower) ≠ "infinity" :=
    proper.toLower_ne (c := 'i') rfl (by decide)
  have notNan : String.ofList (p.text.map Char.toLower) ≠ "nan" :=
    proper.toLower_ne (c := 'n') rfl (by decide)
  unfold Field.readFloat?
  dsimp only
  rw [shape] at notInf notInfinity notNan read ⊢
  split
  · simp_all
  · simp_all
  · simp_all
  · split
    · simp_all
    · simp_all
    · exact read

/-! ## With a sign -/

theorem Proper.isFloat (proper : p.Proper) (negative : Bool) :
    Tag.isFloat (Binary64.withSign negative p.text) = true := by
  obtain ⟨c, rest, shape, digit⟩ := proper.exists_first
  have unsigned : Tag.unsigned (Binary64.withSign negative p.text) = p.text := by
    cases negative with
    | true => rfl
    | false =>
        rw [shape]
        exact unsigned_of_isDigit digit rest
  have stop : ∀ d ∈ p.mark.head?, Tag.isGrouped d = false := by
    intro d first
    rw [p.head?_mark first]
    decide
  have point : ∀ d ∈ ('.' :: (p.fraction ++ p.mark)).head?, Tag.isGrouped d = false := by
    simp [Tag.isGrouped]
  have whole := takeWhile_append_stop
    (fun d member => isGrouped_of_isDigit (proper.whole d member)) point
  have fraction := takeWhile_append_stop
    (fun d member => isGrouped_of_isDigit (proper.fraction d member)) stop
  have group : Tag.isGroup p.whole = true := by
    obtain ⟨d, more, cut⟩ := List.exists_cons_of_ne_nil proper.someDigits
    have digits := proper.whole
    rw [cut] at digits ⊢
    rw [Tag.isGroup, digits d List.mem_cons_self, Bool.true_and, List.all_eq_true]
    exact fun e member => isGrouped_of_isDigit (digits e (List.mem_cons_of_mem d member))
  have decimal : Tag.isDecimal p.text = true := by
    rw [Tag.isDecimal, text, whole.1, whole.2]
    simp only [fraction.2, group, p.isExponent_mark, Bool.and_self]
  rw [Tag.isFloat, unsigned, decimal]
  rfl

theorem Proper.ofPlain (proper : p.Proper) (negative : Bool) :
    Tag.ofPlain (Binary64.withSign negative p.text) = .float := by
  obtain ⟨c, rest, shape, digit⟩ := proper.exists_first
  have words : (Tag.boolWords.any fun w => Binary64.withSign negative p.text = w.toList) =
      false := by
    rw [shape]
    cases negative with
    | true =>
        have letters : ∀ w ∈ Tag.boolWords, w.toList.head? ≠ some '-' := by decide
        rw [List.any_eq_false]
        intro w member same
        rw [decide_eq_true_eq] at same
        exact letters w member (by rw [← same]; rfl)
    | false => exact boolWords_of_isDigit digit rest
  rw [Tag.ofPlain, words, proper.isFloat]
  rfl

theorem Proper.kept (proper : p.Proper) (negative : Bool) :
    ∀ d ∈ Binary64.withSign negative p.text, (d != '_') = true ∧ lowerChar d = d := by
  intro d member
  have inText : d ∈ p.text ∨ d = '-' := by
    cases negative with
    | true => exact (List.mem_cons.mp member).symm
    | false => exact .inl member
  rcases inText with inText | rfl
  · rcases proper.mem_text inText with digit | rfl | rfl | rfl | rfl
    · have range := (isDigit_iff d).mp digit
      have ascii : d.toNat < 128 := by omega
      refine ⟨by simpa using ne_of_isDigit digit (show '_'.isDigit = false by decide), ?_⟩
      rw [lowerChar, if_pos ascii]
      exact toLower_eq_self (by omega)
    all_goals exact ⟨by decide, by decide +kernel⟩
  · exact ⟨by decide, by decide +kernel⟩

theorem Proper.floatOf (proper : p.Proper) (negative : Bool) :
    floatOf (Binary64.withSign negative p.text) =
      .ok (.float (.mul (.ofInt (if negative then -1 else 1)) p.value)) := by
  obtain ⟨c, rest, shape, digit⟩ := proper.exists_first
  have notPlus := ne_of_isDigit digit (show '+'.isDigit = false by decide)
  have notMinus := ne_of_isDigit digit (show '-'.isDigit = false by decide)
  have notPoint := ne_of_isDigit digit (show '.'.isDigit = false by decide)
  have ungrouped : (Binary64.withSign negative p.text).filter (· != '_') =
      Binary64.withSign negative p.text :=
    List.filter_eq_self.mpr fun d member => (proper.kept negative d member).1
  have lower : Text.lower (Binary64.withSign negative p.text) = Binary64.withSign negative p.text :=
    lower_eq_self fun d member => (proper.kept negative d member).2
  have noColon : p.text.contains ':' = false := proper.contains_eq_false (by decide) (by decide)
  have number : numberOf p.text = .ok p.value := by
    rw [numberOf, proper.asciiDigits_text, proper.readFloat?]
  have notWords : p.text ≠ ".inf".toList ∧ p.text ≠ ".nan".toList := by
    rw [shape]
    constructor <;> simp [notPoint]
  unfold Yaml.floatOf
  rw [ungrouped, lower]
  cases negative with
  | true =>
      simp only [Binary64.withSign, if_true, List.isEmpty_cons, if_neg Bool.false_ne_true,
        if_neg notWords.1, if_neg notWords.2, noColon, number]
      rfl
  | false =>
      simp only [Binary64.withSign, if_neg Bool.false_ne_true]
      rw [shape] at notWords noColon number ⊢
      simp only [List.isEmpty_cons, if_neg Bool.false_ne_true]
      split
      · simp_all
      · simp_all
      · simp only [if_neg notWords.1, if_neg notWords.2, noColon, if_neg Bool.false_ne_true, number]
        rfl

end Pointed

/-! ## The text of a number -/

/-- Puts a point into a number that has none and an exponent. -/
def withPoint (t : Text) : Text :=
  if t.contains '.' || !t.contains 'e' then t
  else t.takeWhile (· != 'e') ++ ".0".toList ++ t.dropWhile (· != 'e')

theorem withPoint_withSign (negative : Bool) (t : Text) :
    withPoint (Binary64.withSign negative t) = Binary64.withSign negative (withPoint t) := by
  cases negative with
  | false => rfl
  | true =>
      simp only [withPoint, Binary64.withSign, if_true, List.contains_cons]
      split <;> simp_all

theorem Pointed.withPoint_text (p : Pointed) : withPoint p.text = p.text := by
  have contained : p.text.contains '.' = true := by simp [Pointed.text]
  rw [withPoint, contained, Bool.true_or, if_pos rfl]

/-- A decimal with a point that `digits` make up whose first one has the exponent `leading`. -/
structure Pointed.Shows (p : Pointed) (digits : Text) (leading : Int) : Prop where
  proper : p.Proper
  text : withPoint (Binary64.notation64 digits leading) = p.text
  value : p.value = .ofDecimal false (digitsValue digits) (leading + 1 - digits.length)

/-! ### The three notations -/

theorem notation64_negSucc (digits : Text) {zeros : Nat} (few : zeros < 4) :
    Binary64.notation64 digits (.negSucc zeros) =
      ['0'] ++ '.' :: (List.replicate zeros '0' ++ digits) := by
  have positional : (-4 ≤ Int.negSucc zeros && Int.negSucc zeros < 16) = true := by
    simp only [Bool.and_eq_true, decide_eq_true_eq]
    omega
  unfold Binary64.notation64
  rw [if_pos positional]
  dsimp only
  simp

theorem notation64_ofNat (digits : Text) {whole : Nat} (few : whole < 16) :
    Binary64.notation64 digits (.ofNat whole) =
      digits.take (whole + 1) ++ List.replicate (whole + 1 - digits.length) '0' ++
        '.' :: (if (digits.drop (whole + 1)).isEmpty then ['0'] else digits.drop (whole + 1)) := by
  have positional : (-4 ≤ Int.ofNat whole && Int.ofNat whole < 16) = true := by
    simp only [Bool.and_eq_true, decide_eq_true_eq, Int.ofNat_eq_natCast]
    omega
  unfold Binary64.notation64
  rw [if_pos positional]

theorem notation64_of_far (c : Char) (rest : Text) {leading : Int}
    (far : ¬(-4 ≤ leading && leading < 16) = true) :
    Binary64.notation64 (c :: rest) leading =
      (if rest.isEmpty then [c] else c :: '.' :: rest) ++ exponentText leading := by
  unfold Binary64.notation64
  rw [if_neg far]
  cases rest <;> rfl

theorem isDigit_of_mem_zeros {count : Nat} {c : Char} (member : c ∈ List.replicate count '0') :
    c.isDigit = true := by
  rw [(List.mem_replicate.mp member).2]
  decide

section Notation

variable {digits : Text} (someDigits : digits ≠ []) (decimal : ∀ c ∈ digits, c.isDigit = true)

include decimal in
theorem exists_pointed_negSucc {zeros : Nat} (few : zeros < 4) :
    ∃ p : Pointed, p.Shows digits (.negSucc zeros) := by
  let p : Pointed := ⟨['0'], List.replicate zeros '0' ++ digits, none⟩
  have text : p.text = ['0'] ++ '.' :: (List.replicate zeros '0' ++ digits) := by
    simp [p, Pointed.text, Pointed.mark]
  refine ⟨p, ⟨List.cons_ne_nil _ _, ?_, ?_⟩, ?_, ?_⟩
  · simp [p]
  · intro c member
    rcases List.mem_append.mp member with zero | digit
    · exact isDigit_of_mem_zeros zero
    · exact decimal c digit
  · rw [notation64_negSucc digits few, ← text, p.withPoint_text]
  · have oneMore : p.whole ++ p.fraction = List.replicate (zeros + 1) '0' ++ digits := rfl
    have places : p.exponent.getD 0 - p.fraction.length =
        Int.negSucc zeros + 1 - digits.length := by
      simp only [p, Option.getD_none, List.length_append, List.length_replicate]
      omega
    rw [Pointed.value, oneMore, digitsValue_zeros_append, places]

include someDigits decimal in
/-- All digits stand in front of the point. -/
theorem exists_pointed_of_short {whole : Nat} (few : whole < 16)
    (short : digits.length ≤ whole + 1) : ∃ p : Pointed, p.Shows digits (.ofNat whole) := by
  let p : Pointed := ⟨digits ++ List.replicate (whole + 1 - digits.length) '0', ['0'], none⟩
  have text : p.text = digits ++ List.replicate (whole + 1 - digits.length) '0' ++
      '.' :: ['0'] := by
    simp [p, Pointed.text, Pointed.mark]
  have cut : digits.take (whole + 1) = digits ∧ (digits.drop (whole + 1)).isEmpty = true := by
    rw [List.take_of_length_le short, List.drop_eq_nil_of_le short]
    exact ⟨rfl, rfl⟩
  refine ⟨p, ⟨List.append_ne_nil_of_left_ne_nil someDigits _, ?_, ?_⟩, ?_, ?_⟩
  · intro c member
    rcases List.mem_append.mp member with digit | zero
    · exact decimal c digit
    · exact isDigit_of_mem_zeros zero
  · simp [p]
  · rw [notation64_ofNat digits few, cut.1, cut.2, if_pos rfl, ← text, p.withPoint_text]
  · have oneMore : p.whole ++ p.fraction =
        digits ++ List.replicate (whole + 1 - digits.length + 1) '0' := by
      rw [List.replicate_succ', ← List.append_assoc]
    have places : p.exponent.getD 0 - p.fraction.length + (whole + 1 - digits.length + 1 : Nat) =
        Int.ofNat whole + 1 - digits.length := by
      simp only [p, Option.getD_none, List.length_singleton, Int.ofNat_eq_natCast]
      omega
    rw [Pointed.value, oneMore, digitsValue_append_zeros, Binary64.ofDecimal_mul_pow, places]

include someDigits decimal in
/-- The point stands between two digits. -/
theorem exists_pointed_of_long {whole : Nat} (few : whole < 16)
    (long : ¬digits.length ≤ whole + 1) : ∃ p : Pointed, p.Shows digits (.ofNat whole) := by
  let p : Pointed := ⟨digits.take (whole + 1), digits.drop (whole + 1), none⟩
  have cut : (digits.drop (whole + 1)).isEmpty = false := by
    rw [List.isEmpty_eq_false_iff, Ne, List.drop_eq_nil_iff]
    exact long
  have noZeros : whole + 1 - digits.length = 0 := by omega
  have text : p.text = digits.take (whole + 1) ++ '.' :: digits.drop (whole + 1) := by
    simp [p, Pointed.text, Pointed.mark]
  refine ⟨p, ⟨?_, fun c member => decimal c (List.mem_of_mem_take member),
    fun c member => decimal c (List.mem_of_mem_drop member)⟩, ?_, ?_⟩
  · simp [p, someDigits]
  · rw [notation64_ofNat digits few, cut, noZeros, List.replicate_zero, List.append_nil,
      if_neg Bool.false_ne_true, ← text, p.withPoint_text]
  · have places : p.exponent.getD 0 - p.fraction.length =
        Int.ofNat whole + 1 - digits.length := by
      simp only [p, Option.getD_none, List.length_drop, Int.ofNat_eq_natCast]
      omega
    rw [Pointed.value, List.take_append_drop, places]

/-- A single digit in front of an exponent gets a point behind it. -/
theorem withPoint_digit {c : Char} (digit : c.isDigit = true) (leading : Int) :
    withPoint ([c] ++ exponentText leading) = [c] ++ ".0".toList ++ exponentText leading := by
  have whole : ∀ d ∈ [c], (d != 'e') = true := by
    simpa using ne_of_isDigit digit (show 'e'.isDigit = false by decide)
  have stop : ∀ d ∈ (exponentText leading).head?, (d != 'e') = false := by simp [exponentText]
  have cut := takeWhile_append_stop whole stop
  have noPoint : ([c] ++ exponentText leading).contains '.' = false := by
    have notPoint := (ne_of_isDigit digit (show '.'.isDigit = false by decide)).symm
    have inDigits : '.' ∉ padded 2 leading.natAbs :=
      fun member => absurd (isDigit_of_mem_padded member) (by decide)
    have notSign : '.' ≠ (if leading < 0 then '-' else '+') := by split <;> decide
    simp [exponentText, notPoint, notSign, inDigits]
  have letter : ([c] ++ exponentText leading).contains 'e' = true := by
    simp [exponentText]
  rw [withPoint, noPoint, letter, cut.1, cut.2]
  rfl

include someDigits decimal in
theorem exists_pointed_of_far {leading : Int} (far : ¬(-4 ≤ leading && leading < 16) = true) :
    ∃ p : Pointed, p.Shows digits leading := by
  obtain ⟨c, rest, rfl⟩ := List.exists_cons_of_ne_nil someDigits
  have first := decimal c List.mem_cons_self
  cases rest with
  | nil =>
      let p : Pointed := ⟨[c], ['0'], some leading⟩
      refine ⟨p, ⟨List.cons_ne_nil _ _, decimal, ?_⟩, ?_, ?_⟩
      · simp [p]
      · rw [notation64_of_far c [] far]
        change withPoint ([c] ++ exponentText leading) = _
        rw [withPoint_digit first]
        rfl
      · have oneMore : p.whole ++ p.fraction = [c] ++ List.replicate 1 '0' := rfl
        have places : p.exponent.getD 0 - p.fraction.length + (1 : Nat) =
            leading + 1 - [c].length := by
          simp [p]
        rw [Pointed.value, oneMore, digitsValue_append_zeros, Binary64.ofDecimal_mul_pow, places]
  | cons d rest =>
      let p : Pointed := ⟨[c], d :: rest, some leading⟩
      refine ⟨p, ⟨List.cons_ne_nil _ _, ?_,
        fun e member => decimal e (List.mem_cons_of_mem c member)⟩, ?_, ?_⟩
      · simpa [p] using first
      · rw [notation64_of_far c (d :: rest) far]
        exact p.withPoint_text
      · have places : p.exponent.getD 0 - p.fraction.length =
            leading + 1 - (c :: d :: rest).length := by
          simp only [p, Option.getD_some, List.length_cons]
          omega
        rw [Pointed.value, places]
        rfl

include someDigits decimal in
/-- The notation of a decimal has a point, or gets one, and the digits of both stand for the
same number. -/
theorem exists_pointed (leading : Int) : ∃ p : Pointed, p.Shows digits leading := by
  by_cases near : (-4 ≤ leading && leading < 16) = true
  · have bounds := near
    simp only [Bool.and_eq_true, decide_eq_true_eq] at bounds
    rcases leading with whole | zeros
    · rw [Int.ofNat_eq_natCast] at bounds
      rcases Nat.lt_or_ge (whole + 1) digits.length with long | short
      · exact exists_pointed_of_long someDigits decimal (by omega) (Nat.not_le.mpr long)
      · exact exists_pointed_of_short someDigits decimal (by omega) short
    · exact exists_pointed_negSucc decimal (by omega)
  · exact exists_pointed_of_far someDigits decimal near

end Notation

/-! ## Reading back -/

theorem exists_stripZeros (digits : Text) :
    ∃ zeros, digits = Binary64.stripZeros digits ++ List.replicate zeros '0' := by
  refine ⟨(digits.rtakeWhile (· == '0')).length, ?_⟩
  have cut : Binary64.stripZeros digits ++ digits.rtakeWhile (· == '0') = digits :=
    List.rdropWhile_append_rtakeWhile
  have zeros : digits.rtakeWhile (· == '0') =
      List.replicate (digits.rtakeWhile (· == '0')).length '0' := by
    rw [List.eq_replicate_iff]
    exact ⟨rfl, fun c member => by simpa using List.mem_rtakeWhile_imp member⟩
  rw [← zeros, cut]

variable {significand : Nat} {exponent : Int}

/-- The text of a positive number is a decimal that stands for the number. -/
theorem exists_pointed_of_positive (standard : Binary64.IsStandard significand exponent)
    (nonzero : 0 < significand) (negative : Bool) :
    ∃ p : Pointed, p.Proper ∧
      floatText (.finite negative significand exponent standard) =
        Binary64.withSign negative p.text ∧
      p.value = .finite false significand exponent standard := by
  have back := Binary64.ofDecimal_shortest standard nonzero
  have positive := Binary64.shortest_digits_pos standard nonzero
  generalize decimalShape : Binary64.shortest standard = decimal at back positive
  obtain ⟨zeros, cut⟩ := exists_stripZeros (Text.ofNat decimal.digits)
  generalize strippedShape : Binary64.stripZeros (Text.ofNat decimal.digits) = digits at cut
  have value : digitsValue digits * 10 ^ zeros = decimal.digits := by
    rw [← digitsValue_append_zeros, ← cut, digitsValue_ofNat]
  have someDigits : digits ≠ [] := by
    rintro rfl
    rw [show digitsValue [] = 0 from rfl, Nat.zero_mul] at value
    omega
  have allDigits : ∀ c ∈ digits, c.isDigit = true := by
    intro c member
    exact isDigit_of_mem_ofNat (by rw [cut]; exact List.mem_append_left _ member)
  have length : (Text.ofNat decimal.digits).length = digits.length + zeros := by
    rw [cut, List.length_append, List.length_replicate]
  have someLength : 0 < digits.length := List.length_pos_iff.mpr someDigits
  obtain ⟨p, shown⟩ := exists_pointed someDigits allDigits
    (decimal.exponent + ((Text.ofNat decimal.digits).length - 1 : Nat))
  refine ⟨p, shown.proper, ?_, ?_⟩
  · have notZero : ¬significand = 0 := by omega
    change withPoint (Binary64.toShortest (.finite negative significand exponent standard)) = _
    rw [Binary64.toShortest, if_neg notZero]
    dsimp only
    rw [decimalShape, strippedShape, withPoint_withSign, shown.text]
  · have places : decimal.exponent + ((Text.ofNat decimal.digits).length - 1 : Nat) + 1 -
        digits.length = decimal.exponent + zeros := by
      omega
    rw [shown.value, places, ← Binary64.ofDecimal_mul_pow, value, back]

theorem mul_one_sign (standard : Binary64.IsStandard significand exponent)
    (nonzero : 0 < significand) (negative : Bool) :
    Binary64.mul (.ofInt (if negative then -1 else 1))
        (.finite false significand exponent standard) =
      .finite negative significand exponent standard := by
  have one : Binary64.ofInt (if negative then -1 else 1) =
      .finite negative (2 ^ 52) (-52) (by decide) := by
    cases negative <;> decide +kernel
  rw [one, Binary64.mul]
  dsimp only
  rw [Bool.bne_false]
  apply Binary64.ofRatio_of_eq standard nonzero (Binary64.ratio_pos _ _)
  rw [Binary64.ratio_value, Nat.cast_mul, zpow_add₀ two_ne_zero]
  push_cast
  ring

/-- The text of a finite number is a decimal that stands for the number without its sign. -/
theorem exists_pointed_of_isStandard (standard : Binary64.IsStandard significand exponent)
    (negative : Bool) : ∃ p : Pointed, p.Proper ∧
      floatText (.finite negative significand exponent standard) =
        Binary64.withSign negative p.text ∧
      Binary64.mul (.ofInt (if negative then -1 else 1)) p.value =
        .finite negative significand exponent standard := by
  rcases Nat.eq_zero_or_pos significand with rfl | nonzero
  · have least : exponent = Binary64.leastExponent := by
      rcases standard.full with least | full
      · exact least
      · exact absurd full (by decide)
    subst least
    refine ⟨⟨['0'], ['0'], none⟩, ⟨List.cons_ne_nil _ _, by simp, by simp⟩, ?_, ?_⟩
    · change floatText (.signedZero negative) = _
      cases negative <;> decide
    · change _ = Binary64.signedZero negative
      cases negative <;> decide +kernel
  · obtain ⟨p, proper, text, value⟩ := exists_pointed_of_positive standard nonzero negative
    exact ⟨p, proper, text, by rw [value, mul_one_sign standard nonzero]⟩

theorem ofPlain_floatText (standard : Binary64.IsStandard significand exponent) (negative : Bool) :
    Tag.ofPlain (floatText (.finite negative significand exponent standard)) = .float := by
  obtain ⟨p, proper, text, -⟩ := exists_pointed_of_isStandard standard negative
  rw [text, proper.ofPlain]

/-- A finite number is read back from its text. -/
theorem floatOf_floatText (standard : Binary64.IsStandard significand exponent) (negative : Bool) :
    floatOf (floatText (.finite negative significand exponent standard)) =
      .ok (.float (.finite negative significand exponent standard)) := by
  obtain ⟨p, proper, text, value⟩ := exists_pointed_of_isStandard standard negative
  rw [text, proper.floatOf, value]

end OutlineSearch.Yaml
