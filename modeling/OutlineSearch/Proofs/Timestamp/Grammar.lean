import OutlineSearch.Proofs.Timestamp.Details
import OutlineSearch.Proofs.Timestamp.Recognition

/-!
# The grammar of timestamps

A line holds a timestamp exactly if it is spelled as one: blanks, an optional label, a bracket, a
date, and then, each behind blanks and each optional, a weekday, the times and an interval, before
the closing bracket that fits.  What stands behind that does not count.  No line spells two
timestamps, because an interval may not begin with a word that could be the times or the weekday
where these are left out.
-/

namespace OutlineSearch.Timestamp

/-- A label with a colon and blanks, or nothing where a timestamp just names a date. -/
inductive SpellsPlan : Plan → Text → Prop where
  | plain : SpellsPlan .plain []
  | labelled {plan : Plan} {name : String} {label blanks : Text} :
      plan.label? = some name → label.upper = name.toList →
      (∀ c ∈ blanks, Text.isBlank c = true) →
      SpellsPlan plan (label ++ ':' :: blanks)

/-- Year, month and day, whether or not there is such a day. -/
inductive SpellsDate : Date → Text → Prop where
  | numerals {year month day : Text} :
      IsNumeral 4 year → IsNumeral 2 month → IsNumeral 2 day →
      SpellsDate ⟨year.digitsValue, month.digitsValue, day.digitsValue⟩
        (year ++ '-' :: (month ++ '-' :: day))

/-- A way to spell a timestamp: the pieces of a line that holds it. -/
structure Spelling (t : Timestamp) where
  indent : Text
  label : Text
  date : Text
  start : Option Time
  finish : Option Time
  afterDate : AfterDate start finish t.interval
  behind : Text
  indent_blank : ∀ c ∈ indent, Text.isBlank c = true
  label_spelled : SpellsPlan t.plan label
  date_spelled : SpellsDate t.start.date date
  date_valid : t.start.date.IsValid
  /-- Without times a timestamp starts at midnight. -/
  start_clock : Clock.IsAt (start.getD (0, 0)) t.start.clock
  finish_clock : Option.Rel Clock.IsAt finish t.until?

/-- The line that is spelled. -/
def Spelling.text {t : Timestamp} (s : Spelling t) : Text :=
  s.indent ++ (s.label ++ t.opener ::
    (s.date ++ (s.afterDate.text ++ closerOf t.opener :: s.behind)))

/-! ## The date and the label -/

theorem readBracket?_eq_some_iff (label : Option Text) (text : Text) (p : Parts) :
    readBracket? label text = some p ↔
      p.label = label ∧ (p.opener = '<' ∨ p.opener = '[') ∧
        ∃ date behind, SpellsDate ⟨p.year, p.month, p.day⟩ date ∧
          readDetails? behind = some p.details ∧ text = p.opener :: (date ++ behind) := by
  constructor
  · intro read
    refine ⟨label_of_readBracket? read, ?_⟩
    cases text with
    | nil => cases read
    | cons opener rest =>
        rw [readBracket?] at read
        split at read
        · rename_i opens
          simp only [Option.bind_eq_bind, Option.bind_eq_some_iff] at read
          obtain ⟨⟨_, afterYear⟩, readYear, _, yearDash, ⟨_, afterMonth⟩, readMonth, _, monthDash,
            ⟨_, behind⟩, readDay, details, readDetails, same⟩ := read
          obtain rfl := Option.some.inj same
          obtain ⟨year, isYear, rfl⟩ := exists_numeral_of_readNumber? readYear
          obtain rfl := eq_cons_of_readChar? yearDash
          obtain ⟨month, isMonth, rfl⟩ := exists_numeral_of_readNumber? readMonth
          obtain rfl := eq_cons_of_readChar? monthDash
          obtain ⟨day, isDay, rfl⟩ := exists_numeral_of_readNumber? readDay
          rw [readNumber?_append isYear] at readYear
          rw [readNumber?_append isMonth] at readMonth
          rw [readNumber?_append isDay] at readDay
          obtain ⟨rfl, -⟩ := Prod.mk.inj (Option.some.inj readYear)
          obtain ⟨rfl, -⟩ := Prod.mk.inj (Option.some.inj readMonth)
          obtain ⟨rfl, -⟩ := Prod.mk.inj (Option.some.inj readDay)
          exact ⟨by simpa using opens, _, behind, .numerals isYear isMonth isDay, readDetails,
            by simp⟩
        · cases read
  · obtain ⟨label, opener, year, month, day, details⟩ := p
    rintro ⟨rfl, opens, date, behind, spelled, readDetails, rfl⟩
    dsimp only at opens spelled readDetails ⊢
    obtain ⟨isYear, isMonth, isDay⟩ := spelled
    rw [readBracket?, if_pos (by simpa using opens)]
    simp only [List.append_assoc, List.cons_append, readNumber?_append isYear, readChar?_cons,
      readNumber?_append isMonth, readNumber?_append isDay, readDetails, Option.bind_eq_bind,
      Option.bind_some]

/-- No letter of a label is a blank. -/
theorem isBlank_of_readLabel? {text label rest : Text}
    (read : readLabel? text = some (label, rest)) : ∀ c ∈ label, Text.isBlank c = false := by
  have solid : (labelChars.all fun c => !Text.isBlank c) = true := by decide +kernel
  rw [List.all_eq_true] at solid
  obtain ⟨word, isLabel, behind, readWord, -⟩ := exists_word_of_readLabel? read
  intro c member
  simpa using solid c (mem_labelChars isLabel readWord c member)

theorem isBlank_of_opens {opener : Char} (opens : opener = '<' ∨ opener = '[') :
    Text.isBlank opener = false := by
  rcases opens with rfl | rfl <;> decide

/-- A label that is spelled in front of a bracket is read, and announces the plan. -/
theorem readParts?_of_spellsPlan {plan : Plan} {indent label : Text} {opener : Char}
    (blank : ∀ c ∈ indent, Text.isBlank c = true) (spelled : SpellsPlan plan label)
    (opens : opener = '<' ∨ opener = '[') (rest : Text) :
    ∃ found, planOf found = .ok plan ∧
      readParts? (indent ++ (label ++ opener :: rest)) = readBracket? found (opener :: rest) := by
  have front := Text.trimLeft_cons_of_not_blank (isBlank_of_opens opens) rest
  rw [readParts?, Text.trimLeft_blanks_append blank]
  cases spelled with
  | plain =>
      rw [List.nil_append, front, readLabel?_of_opener opens]
      exact ⟨none, rfl, rfl⟩
  | @labelled _ name label blanks isLabel upper blanksBehind =>
      have known := (ofLabel?_eq_some_iff label.upper plan).mpr ⟨name, isLabel, upper⟩
      have read := readLabel?_of_known known (blanks ++ opener :: rest)
      rw [Text.trimLeft_blanks_append blanksBehind, front] at read
      -- The label begins where the indent ends.
      have solid : Text.trimLeft (label ++ ':' :: (blanks ++ opener :: rest)) =
          label ++ ':' :: (blanks ++ opener :: rest) := by
        cases label with
        | nil => exact Text.trimLeft_cons_of_not_blank (by decide) _
        | cons c more =>
            exact Text.trimLeft_cons_of_not_blank
              (isBlank_of_readLabel? read c List.mem_cons_self) _
      rw [List.append_assoc, List.cons_append, solid, read]
      exact ⟨some label, by simp only [planOf, known], rfl⟩

theorem exists_spellsPlan_of_readParts? {line : Text} {p : Parts} {plan : Plan}
    (read : readParts? line = some p) (isPlan : planOf p.label = .ok plan) :
    ∃ indent label text, (∀ c ∈ indent, Text.isBlank c = true) ∧ SpellsPlan plan label ∧
      readBracket? p.label text = some p ∧ line = indent ++ (label ++ text) := by
  have blank : ∀ c ∈ line.takeWhile Text.isBlank, Text.isBlank c = true :=
    fun c member => List.mem_takeWhile_imp member
  have whole : line = line.takeWhile Text.isBlank ++ line.trimLeft :=
    List.takeWhile_append_dropWhile.symm
  rw [readParts?] at read
  split at read
  · rename_i label rest readLabel
    have sameLabel := label_of_readBracket? read
    rw [sameLabel] at isPlan ⊢
    obtain ⟨behind, text, rfl⟩ := exists_behind_of_readLabel? readLabel
    rw [planOf] at isPlan
    split at isPlan
    · rename_i found known
      obtain rfl := Except.ok.inj isPlan
      obtain ⟨name, isLabel, upper⟩ := (ofLabel?_eq_some_iff _ _).mp known
      refine ⟨_, label ++ ':' :: behind.takeWhile Text.isBlank, behind.trimLeft, blank,
        .labelled isLabel upper fun c member => List.mem_takeWhile_imp member, read, ?_⟩
      rw [List.append_assoc, List.cons_append, Text.trimLeft, List.takeWhile_append_dropWhile,
        ← text]
      exact whole
    · cases isPlan
  · rw [label_of_readBracket? read] at isPlan ⊢
    obtain rfl := Except.ok.inj isPlan
    exact ⟨_, [], line.trimLeft, blank, .plain, read, whole⟩

/-! ## The whole line -/

theorem eq_opener_iff {opener : Char} (opens : opener = '<' ∨ opener = '[') (t : Timestamp) :
    opener = t.opener ↔ decide (opener = '<') = t.isActive := by
  unfold Timestamp.opener
  rcases opens with rfl | rfl <;> cases t.isActive <;> decide

/-- A line that spells a timestamp is read as that. -/
theorem Spelling.parse_text {t : Timestamp} (s : Spelling t) : parse s.text = .ok t := by
  have opens : t.opener = '<' ∨ t.opener = '[' := by simpa using t.opener_opens
  obtain ⟨label, isPlan, read⟩ := readParts?_of_spellsPlan s.indent_blank s.label_spelled opens
    (s.date ++ (s.afterDate.text ++ closerOf t.opener :: s.behind))
  have readDetails := (readDetails?_eq_some_iff _
    ⟨s.start, s.finish, t.interval, closerOf t.opener⟩).mpr
      ⟨isCloser_closerOf t.opener, s.afterDate, s.behind, rfl⟩
  have readBracket := (readBracket?_eq_some_iff label _ ⟨label, t.opener, t.start.date.year,
    t.start.date.month, t.start.date.day, ⟨s.start, s.finish, t.interval, closerOf t.opener⟩⟩).mpr
      ⟨rfl, opens, s.date, _, s.date_spelled, readDetails, rfl⟩
  refine (parse_eq_ok_iff _ t).mpr ⟨_, read.trans readBracket, rfl, isPlan, ?_, ?_, rfl⟩
  · exact (Parts.moments_eq_ok_iff _ _ _).mpr ⟨rfl, s.date_valid, s.start_clock, s.finish_clock⟩
  · exact (eq_opener_iff opens t).mp rfl

/-- A line from which a timestamp is read spells it. -/
theorem exists_spelling_of_parse {line : Text} {t : Timestamp} (read : parse line = .ok t) :
    ∃ s : Spelling t, s.text = line := by
  obtain ⟨⟨label, opener, year, month, day, start, finish, interval, closer⟩, readParts, closed,
    isPlan, moments, active, same⟩ := (parse_eq_ok_iff line t).mp read
  obtain rfl : interval = t.interval := same
  obtain rfl : closerOf opener = closer := closed
  obtain ⟨indent, label, text, blank, labelSpelled, readBracket, rfl⟩ :=
    exists_spellsPlan_of_readParts? readParts isPlan
  obtain ⟨-, opens, date, behind, dateSpelled, readDetails, rfl⟩ :=
    (readBracket?_eq_some_iff _ _ _).mp readBracket
  obtain ⟨-, after, rest, rfl⟩ := (readDetails?_eq_some_iff _ _).mp readDetails
  obtain ⟨sameDate, valid, isAt, ends⟩ := (Parts.moments_eq_ok_iff _ _ _).mp moments
  obtain rfl : opener = t.opener := (eq_opener_iff opens t).mpr active
  refine ⟨⟨indent, label, date, start, finish, after, rest, blank, labelSpelled, ?_, valid, isAt,
    ends⟩, rfl⟩
  rw [sameDate]
  exact dateSpelled

/-- From a line exactly the timestamp is read that it spells, and no line spells two of them.  A
label with a dotted capital I, whose upper case is no label, spells no plan. -/
theorem parse_iff_spelled :
    (∀ (line : Text) (t : Timestamp), parse line = .ok t ↔ ∃ s : Spelling t, s.text = line) ∧
      ∀ (t other : Timestamp) (s : Spelling t) (r : Spelling other),
        s.text = r.text → t = other := by
  refine ⟨fun line t => ⟨exists_spelling_of_parse, ?_⟩, fun t other s r same => ?_⟩
  · rintro ⟨s, rfl⟩
    exact s.parse_text
  · have read := s.parse_text
    rw [same, r.parse_text] at read
    exact (Except.ok.inj read).symm

/-- Three letters behind the date are the weekday in every spelling of a line, although they could
stand in an interval. -/
theorem parse_iff_spelled_of_weekday :
    (∃ t, ∃ s : Spelling t, s.text = "\t\u017fcheduled: [2021-08-28 foo ++1w ] done".toList) ∧
      ∀ (t : Timestamp) (s : Spelling t),
        s.text = "\t\u017fcheduled: [2021-08-28 foo ++1w ] done".toList →
          t.plan = .scheduled ∧ t.interval = some "++1w".toList := by
  have read : parse "\t\u017fcheduled: [2021-08-28 foo ++1w ] done".toList =
      .ok ⟨.scheduled, false, ⟨⟨2021, 8, 28⟩, .midnight⟩, none, some "++1w".toList⟩ := by
    decide +kernel
  obtain ⟨s, spelled⟩ := (parse_iff_spelled.1 _ _).mp read
  refine ⟨⟨_, s, spelled⟩, fun t r same => ?_⟩
  obtain rfl := parse_iff_spelled.2 _ _ s r (spelled.trans same.symm)
  exact ⟨rfl, rfl⟩

end OutlineSearch.Timestamp
