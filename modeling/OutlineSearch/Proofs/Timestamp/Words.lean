import OutlineSearch.Proofs.Timestamp.Label

/-!
# Words of a timestamp

Between the date and the closing bracket stand words behind blanks.  A weekday or a time is read
as such only where no word goes on behind it, so it is the next word that decides what is read.
-/

namespace OutlineSearch.Timestamp

/-- Blanks that part two words. -/
structure IsGap (text : Text) : Prop where
  nonempty : text ≠ []
  blank : ∀ c ∈ text, Text.isBlank c = true

/-- Whether a character may stand in a word before the closing bracket. -/
def isInner (c : Char) : Bool := !Text.isBlank c && !isCloser c

/-- The word that stands behind the blanks with which a text begins. -/
def nextWord (text : Text) : Text := text.trimLeft.takeWhile isInner

/-- A word before the closing bracket. -/
structure IsWord (word : Text) : Prop where
  nonempty : word ≠ []
  inner : ∀ c ∈ word, isInner c = true

/-- No word goes on here, and the closing bracket stands somewhere behind. -/
structure Ends (text : Text) : Prop where
  stops : ∀ c ∈ text.head?, isInner c = false
  closes : ∃ c ∈ text, isCloser c = true

theorem isInner_eq_true_iff (c : Char) :
    isInner c = true ↔ Text.isBlank c = false ∧ isCloser c = false := by
  simp [isInner]

theorem isInner_of_blank {c : Char} (blank : Text.isBlank c = true) : isInner c = false := by
  simp [isInner, blank]

theorem isInner_of_closer {c : Char} (closes : isCloser c = true) : isInner c = false := by
  simp [isInner, closes]

theorem isBlank_of_closer {c : Char} (closes : isCloser c = true) : Text.isBlank c = false := by
  rw [isCloser, Bool.or_eq_true, beq_iff_eq, beq_iff_eq] at closes
  rcases closes with rfl | rfl <;> decide

theorem isCloser_of_blank {c : Char} (blank : Text.isBlank c = true) : isCloser c = false := by
  by_contra closes
  rw [isBlank_of_closer (by simpa using closes)] at blank
  cases blank

theorem IsWord.solid_append {word : Text} (isWord : IsWord word) (rest : Text) :
    ∀ c ∈ (word ++ rest).head?, Text.isBlank c = false := by
  obtain ⟨c, more, rfl⟩ := List.exists_cons_of_ne_nil isWord.nonempty
  have solid := (isInner_eq_true_iff c).mp (isWord.inner c List.mem_cons_self)
  simpa using solid.1

theorem trimLeft_of_solid {text : Text} (solid : ∀ c ∈ text.head?, Text.isBlank c = false) :
    text.trimLeft = text := by
  cases text with
  | nil => rfl
  | cons c text => exact Text.trimLeft_cons_of_not_blank (solid c rfl) _

theorem nextWord_append {gap word tail : Text} (blank : ∀ c ∈ gap, Text.isBlank c = true)
    (isWord : IsWord word) (stops : ∀ c ∈ tail.head?, isInner c = false) :
    nextWord (gap ++ (word ++ tail)) = word := by
  have nothing : tail.takeWhile isInner = [] := by
    cases tail with
    | nil => rfl
    | cons c tail => exact List.takeWhile_cons_of_neg (by simp [stops c rfl])
  rw [nextWord, Text.trimLeft_blanks_append blank, trimLeft_of_solid (isWord.solid_append tail),
    List.takeWhile_append_of_pos isWord.inner, nothing, List.append_nil]

theorem nextWord_of_closer {gap : Text} (blank : ∀ c ∈ gap, Text.isBlank c = true) {closer : Char}
    (closes : isCloser closer = true) (rest : Text) : nextWord (gap ++ closer :: rest) = [] := by
  rw [nextWord, Text.trimLeft_blanks_append blank,
    Text.trimLeft_cons_of_not_blank (isBlank_of_closer closes)]
  exact List.takeWhile_cons_of_neg (by simp [isInner_of_closer closes])

theorem Ends.append {gap tail : Text} (ends : Ends tail) (isGap : IsGap gap) (word : Text) :
    Ends (gap ++ (word ++ tail)) := by
  obtain ⟨c, closes⟩ := ends.closes
  obtain ⟨first, more, rfl⟩ := List.exists_cons_of_ne_nil isGap.nonempty
  have blank := isGap.blank first List.mem_cons_self
  exact ⟨by simpa using isInner_of_blank blank, c, by simp [closes.1], closes.2⟩

/-- Where a word stands before the closing bracket, blanks stand in front of it. -/
theorem exists_nextWord_of_ends {text : Text} (ends : Ends text) (isWord : IsWord (nextWord text)) :
    ∃ gap tail, IsGap gap ∧ Ends tail ∧ text = gap ++ (nextWord text ++ tail) := by
  have parted : text = text.takeWhile Text.isBlank ++
      (nextWord text ++ text.trimLeft.dropWhile isInner) := by
    rw [nextWord, List.takeWhile_append_dropWhile, Text.trimLeft, List.takeWhile_append_dropWhile]
  have blank : ∀ c ∈ text.takeWhile Text.isBlank, Text.isBlank c = true :=
    fun c member => List.mem_takeWhile_imp member
  refine ⟨_, _, ⟨?_, blank⟩, ⟨?_, ?_⟩, parted⟩
  · intro noGap
    rw [noGap, List.nil_append] at parted
    obtain ⟨c, more, begins⟩ := List.exists_cons_of_ne_nil isWord.nonempty
    have goesOn := isWord.inner c (by rw [begins]; exact List.mem_cons_self)
    rw [ends.stops c (by rw [parted, begins]; rfl)] at goesOn
    cases goesOn
  · intro c isFirst
    have stops := List.head?_dropWhile_not isInner text.trimLeft
    rw [Option.mem_def.mp isFirst] at stops
    simpa using stops
  · -- A closing bracket is no blank and stands in no word.
    obtain ⟨c, member, closes⟩ := ends.closes
    rw [parted, List.mem_append, List.mem_append] at member
    refine ⟨c, ?_, closes⟩
    rcases member with inGap | inWord | inTail
    · have solid := isBlank_of_closer closes
      rw [blank c inGap] at solid
      cases solid
    · have inner := isWord.inner c inWord
      rw [isInner_of_closer closes] at inner
      cases inner
    · exact inTail

/-! ## Blanks -/

theorem readBlanks?_append {gap rest : Text} (isGap : IsGap gap)
    (solid : ∀ c ∈ rest.head?, Text.isBlank c = false) : readBlanks? (gap ++ rest) = some rest := by
  have trimmed := Text.trimLeft_blanks_append isGap.blank rest
  obtain ⟨c, more, rfl⟩ := List.exists_cons_of_ne_nil isGap.nonempty
  have blank := isGap.blank c List.mem_cons_self
  rw [readBlanks?, trimmed, trimLeft_of_solid solid]
  simp [blank]

theorem IsGap.takeWhile {text : Text}
    (blank : (text.head?.map Text.isBlank).getD false = true) :
    IsGap (text.takeWhile Text.isBlank) := by
  refine ⟨?_, fun c member => List.mem_takeWhile_imp member⟩
  cases text with
  | nil => cases blank
  | cons c text =>
      have isBlank : Text.isBlank c = true := blank
      simp [isBlank]

theorem exists_gap_of_readBlanks? {text rest : Text} (read : readBlanks? text = some rest) :
    ∃ gap, IsGap gap ∧ text = gap ++ rest := by
  rw [readBlanks?] at read
  split at read
  · rename_i blank
    obtain rfl := Option.some.inj read
    exact ⟨_, IsGap.takeWhile blank, List.takeWhile_append_dropWhile.symm⟩
  · cases read

/-! ## Weekdays and times as words -/

/-- Three ASCII letters, or characters that equal one of them when case is disregarded. -/
structure IsWeekday (word : Text) : Prop where
  length : word.length = 3
  letters : ∀ c ∈ word, ∃ letter : Char, letter.isAlpha = true ∧ isLetterOf letter c = true

/-- The code points of the letters of a weekday, and others that are ASCII. -/
def weekdayCodes : List Nat := [0x130, 0x131, 0x17F, 0x212A] ++ List.range 128

theorem letters_of_weekdayCodes : ∀ code ∈ weekdayCodes,
    isWeekdayLetter (Char.ofNat code) = true → isInner (Char.ofNat code) = true ∧
      ∃ letter < 128, (Char.ofNat letter).isAlpha = true ∧
        isLetterOf (Char.ofNat letter) (Char.ofNat code) = true := by
  decide +kernel

theorem weekdayLetters_of_letters : ∀ code < 128, (Char.ofNat code).isAlpha = true →
    (Char.ofNat code :: Text.caseVariants (Char.ofNat code)).all isWeekdayLetter = true := by
  decide +kernel

theorem toNat_mem_weekdayCodes {c : Char} (isLetter : isWeekdayLetter c = true) :
    c.toNat ∈ weekdayCodes := by
  simp only [isWeekdayLetter, Bool.or_eq_true, beq_iff_eq] at isLetter
  obtain ((((alpha | code) | code) | code) | code) := isLetter
  · have ascii := List.mem_range.mpr (Text.toNat_lt_of_isAlpha alpha)
    exact List.mem_append_right _ ascii
  all_goals
    rw [code]
    decide

theorem isInner_of_isWeekdayLetter {c : Char} (isLetter : isWeekdayLetter c = true) :
    isInner c = true := by
  have ofCode := letters_of_weekdayCodes c.toNat (toNat_mem_weekdayCodes isLetter)
  rw [Char.ofNat_toNat] at ofCode
  exact (ofCode isLetter).1

/-- The letters of a weekday are those that equal an ASCII letter when case is disregarded. -/
theorem isWeekdayLetter_iff (c : Char) : isWeekdayLetter c = true ↔
    ∃ letter : Char, letter.isAlpha = true ∧ isLetterOf letter c = true := by
  constructor
  · intro isLetter
    have ofCode := letters_of_weekdayCodes c.toNat (toNat_mem_weekdayCodes isLetter)
    rw [Char.ofNat_toNat] at ofCode
    obtain ⟨letter, -, alpha, same⟩ := (ofCode isLetter).2
    exact ⟨_, alpha, same⟩
  · rintro ⟨letter, alpha, same⟩
    have variants := weekdayLetters_of_letters letter.toNat (Text.toNat_lt_of_isAlpha alpha)
    rw [Char.ofNat_toNat] at variants
    exact List.all_eq_true.mp (variants alpha) c (mem_of_isLetterOf same)

theorem isWeekday_iff (word : Text) :
    IsWeekday word ↔ word.length = 3 ∧ ∀ c ∈ word, isWeekdayLetter c = true := by
  simp only [isWeekdayLetter_iff]
  exact ⟨fun ⟨length, letters⟩ => ⟨length, letters⟩, fun ⟨length, letters⟩ => ⟨length, letters⟩⟩

theorem IsWeekday.isWord {word : Text} (isWeekday : IsWeekday word) : IsWord word := by
  obtain ⟨length, letters⟩ := (isWeekday_iff word).mp isWeekday
  refine ⟨?_, fun c member => isInner_of_isWeekdayLetter (letters c member)⟩
  rintro rfl
  cases length

theorem IsClockText.not_blank {text : Text} (clock : IsClockText text) :
    ∀ c ∈ text, Text.isBlank c = false := by
  obtain ⟨hour, minute, ⟨-, hourDigits⟩, ⟨-, minuteDigits⟩, rfl⟩ := clock
  rw [List.forall_mem_append, List.forall_mem_cons]
  exact ⟨fun c member => Text.isBlank_of_isDecimal (hourDigits c member), rfl,
    fun c member => Text.isBlank_of_isDecimal (minuteDigits c member)⟩

theorem IsSpanText.isWord {word : Text} (span : IsSpanText word) : IsWord word := by
  obtain ⟨first, more, begins, -⟩ := span.exists_cons
  refine ⟨by rw [begins]; exact List.cons_ne_nil _ _, ?_⟩
  have solid : ∀ c ∈ word, Text.isBlank c = false := by
    rcases span with clock | ⟨start, finish, isStart, isFinish, rfl⟩
    · exact clock.not_blank
    · rw [List.forall_mem_append, List.forall_mem_cons]
      exact ⟨isStart.not_blank, rfl, isFinish.not_blank⟩
  exact fun c member => (isInner_eq_true_iff c).mpr ⟨solid c member, span.not_closer c member⟩

/-- No times are a weekday, since there is a colon in them. -/
theorem IsSpanText.not_isWeekday {word : Text} (span : IsSpanText word) : ¬IsWeekday word := by
  have colon : ':' ∈ word := by
    rcases span with ⟨hour, minute, -, -, rfl⟩ | ⟨_, _, ⟨hour, minute, -, -, rfl⟩, -, rfl⟩ <;> simp
  intro isWeekday
  have isLetter := ((isWeekday_iff word).mp isWeekday).2 ':' colon
  revert isLetter
  decide

/-! ## The first word of an interval -/

/-- The first word of a text that does not begin with a blank. -/
def firstWord (text : Text) : Text := text.takeWhile fun c => !Text.isBlank c

theorem IsInterval.nextWord_append {gap interval tail : Text} (isInterval : IsInterval interval)
    (blank : ∀ c ∈ gap, Text.isBlank c = true) (stops : ∀ c ∈ tail.head?, isInner c = false) :
    nextWord (gap ++ (interval ++ tail)) = firstWord interval := by
  have parted : interval = firstWord interval ++ interval.dropWhile (!Text.isBlank ·) :=
    List.takeWhile_append_dropWhile.symm
  have isWord : IsWord (firstWord interval) := by
    refine ⟨?_, fun c member => ?_⟩
    · obtain ⟨c, more, rfl⟩ := List.exists_cons_of_ne_nil isInterval.nonempty
      simp [firstWord, isInterval.front c rfl]
    · have solid := List.mem_takeWhile_imp member
      have inside := isInterval.inside c ((List.takeWhile_prefix _).subset member)
      exact (isInner_eq_true_iff c).mpr ⟨by simpa using solid, inside⟩
  have behind : ∀ c ∈ (interval.dropWhile (!Text.isBlank ·) ++ tail).head?, isInner c = false := by
    cases rest : interval.dropWhile (!Text.isBlank ·) with
    | nil => exact stops
    | cons c more =>
        have blankFront := List.head?_dropWhile_not (!Text.isBlank ·) interval
        have blank : Text.isBlank c = true := by simpa [rest] using blankFront
        simpa using isInner_of_blank blank
  rw [parted, List.append_assoc, Timestamp.nextWord_append blank isWord behind, ← parted]

end OutlineSearch.Timestamp
