import OutlineSearch.Outline.Timestamp.Printer
import OutlineSearch.Proofs.Timestamp.Details

/-!
# Reading what has been written

A timestamp that has been read is written with its weekday, without a time of midnight, and
with its interval as it is.  It is read back as the same timestamp unless one of two things
happens: the year has fewer than four digits, since no zeros are put in front of it; or
midnight is left out in front of an interval that begins like a time, which is then read as
the time.
-/

namespace OutlineSearch

theorem Text.join_space_cons (first : Text) (more : List Text) :
    Text.join [' '] (first :: more) = first ++ more.flatMap (' ' :: ·) := by
  induction more generalizing first with
  | nil => simp [Text.join]
  | cons second more induction => simp [Text.join, induction]

namespace Timestamp

/-- A text that begins with what is read as a time or a span. -/
def BeginsLikeTime (text : Text) : Prop :=
  ∃ span rest, IsSpanText span ∧ text = span ++ rest ∧ ∀ c ∈ rest.head?, Text.isBlank c = true

theorem beginsLikeTime_iff (text : Text) : BeginsLikeTime text ↔ IsSpanText (firstWord text) := by
  constructor
  · rintro ⟨span, rest, isSpan, rfl, blank⟩
    have solid : ∀ c ∈ span, (!Text.isBlank c) = true := by
      intro c member
      simp [((isInner_eq_true_iff c).mp (isSpan.isWord.inner c member)).1]
    have nothing : rest.takeWhile (!Text.isBlank ·) = [] := by
      cases rest with
      | nil => rfl
      | cons c rest => exact List.takeWhile_cons_of_neg (by simp [blank c rfl])
    rw [firstWord, List.takeWhile_append_of_pos solid, nothing, List.append_nil]
    exact isSpan
  · intro span
    refine ⟨_, text.dropWhile (!Text.isBlank ·), span, List.takeWhile_append_dropWhile.symm, ?_⟩
    intro c isFirst
    have front := List.head?_dropWhile_not (!Text.isBlank ·) text
    rw [Option.mem_def.mp isFirst] at front
    simpa using front

/-- No repeater of an outline, which begins with a sign, begins like a time. -/
theorem not_beginsLikeTime_cons {c : Char} (notDigit : Text.isDecimal c = false) (rest : Text) :
    ¬BeginsLikeTime (c :: rest) := by
  rintro ⟨span, behind, isSpan, split, -⟩
  obtain ⟨d, more, rfl, decimal⟩ := isSpan.exists_cons
  rw [← (List.cons.inj split).1, notDigit] at decimal
  cases decimal

theorem isNumeral_padded {n : Nat} (bound : n < 100) : IsNumeral 2 (Text.padded 2 n) :=
  ⟨Text.length_padded (by decide) bound,
    fun _ member => Text.isDecimal_of_isDigit (Text.isDigit_of_mem_padded member)⟩

theorem spellsTime_short {c : Clock} (short : c.IsShort) :
    SpellsTime (c.hour, c.minute) c.short := by
  obtain ⟨hour, minute, -⟩ := short.isAt
  dsimp only at hour minute
  have spelled := SpellsTime.numerals (isNumeral_padded (n := c.hour) (by omega))
    (isNumeral_padded (n := c.minute) (by omega))
  rwa [Text.digitsValue_padded, Text.digitsValue_padded] at spelled

theorem isGap_space : IsGap [' '] :=
  ⟨List.cons_ne_nil _ _, List.forall_mem_singleton.mpr (by decide)⟩

/-! ## What stands behind the weekday -/

/-- What a timestamp has behind its weekday. -/
def detailsText (t : Timestamp) : Text := (t.timeText ++ t.intervalText).flatMap (' ' :: ·)

section Interval

variable {interval : Text} {closer : Char} (isInterval : IsInterval interval)
  (closes : isCloser closer = true) (more : Text)
include isInterval closes

theorem readEnd?_interval :
    readEnd? (' ' :: interval ++ closer :: more) = some (some interval, closer) :=
  readEnd?_of_spellsInterval closes (.present isGap_space isInterval) (List.forall_mem_nil _) more

/-- An interval that does not begin like a time is read as such where no time stands. -/
theorem readTimes?_of_not_beginsLikeTime (unlike : ¬BeginsLikeTime interval) :
    readTimes? (' ' :: interval ++ closer :: more) =
      some ⟨none, none, some interval, closer⟩ := by
  have stops : ∀ c ∈ (closer :: more).head?, isInner c = false := by
    simpa using isInner_of_closer closes
  have notSpan : ¬IsSpanText (nextWord (' ' :: interval ++ closer :: more)) := by
    have next : nextWord (' ' :: interval ++ closer :: more) = firstWord interval :=
      isInterval.nextWord_append isGap_space.blank stops
    rw [next, ← beginsLikeTime_iff]
    exact unlike
  rw [readTimes?_of_not_span notSpan, readEnd?_interval isInterval closes]
  rfl

/-- An interval that begins like a time is not read back where no time stands. -/
theorem readTimes?_of_beginsLikeTime (like : BeginsLikeTime interval) :
    ∃ start finish rest, rest ≠ some interval ∧
      readTimes? (' ' :: interval ++ closer :: more) =
        some ⟨some start, finish, rest, closer⟩ := by
  obtain ⟨span, rest, isSpan, split, blank⟩ := like
  have inside : ∀ c ∈ rest, isCloser c = false := by
    intro c member
    exact isInterval.inside c (by simp [split, member])
  have shorter : rest.length < interval.length := by
    have positive : 0 < span.length := by
      obtain ⟨c, more, rfl, -⟩ := isSpan.exists_cons
      simp
    rw [split, List.length_append]
    omega
  have readEnd : ∃ last, last ≠ some interval ∧
      readEnd? (rest ++ closer :: more) = some (last, closer) := by
    rw [readEnd?_append inside closes]
    split
    · exact ⟨none, by simp, rfl⟩
    · rename_i solid
      have blanks : readBlanks? rest = some rest.trimLeft := by
        cases rest with
        | nil => simp [Text.isAllBlank] at solid
        | cons c rest => simp [readBlanks?, blank c rfl]
      refine ⟨some (Text.trimRight rest.trimLeft), ?_, by rw [blanks]; rfl⟩
      intro same
      have length := congrArg List.length (Option.some.inj same)
      have left := Text.length_trimLeft_le rest
      have right := Text.length_trimRight_le rest.trimLeft
      omega
  obtain ⟨last, differs, readEnd⟩ := readEnd
  obtain ⟨start, finish, spelled⟩ := (isSpanText_iff span).mp isSpan
  have read := readTimes?_of_span isGap_space spelled readEnd
  refine ⟨start, finish, last, differs, ?_⟩
  rw [← read, split]
  simp

end Interval

section Written

variable {t : Timestamp} (isRead : t.IsRead)
include isRead

theorem flatMap_intervalText :
    t.intervalText.flatMap (' ' :: ·) = (t.interval.map (' ' :: ·)).getD [] := by
  cases isSome : t.interval with
  | none => simp [intervalText, isSome]
  | some interval =>
      have nonempty := (isRead.interval interval isSome).nonempty
      simp [intervalText, isSome, nonempty]

theorem readEnd?_intervalText {closer : Char} (closes : isCloser closer = true) (more : Text) :
    readEnd? (t.intervalText.flatMap (' ' :: ·) ++ closer :: more) =
      some (t.interval, closer) := by
  rw [flatMap_intervalText isRead]
  cases isSome : t.interval with
  | none =>
      have inside : ∀ c ∈ ([] : Text), isCloser c = false := by simp
      exact readEnd?_append inside closes more
  | some interval => exact readEnd?_interval (isRead.interval interval isSome) closes more

/-- Behind the weekday everything is read as it was, if no interval begins like a time where
none stands. -/
theorem readTimes?_detailsText {closer : Char} (closes : isCloser closer = true) (more : Text)
    (unlike : t.until? = none → t.hasTime = false →
      ∀ interval, t.interval = some interval → ¬BeginsLikeTime interval) :
    ∃ start, start.getD (0, 0) = (t.start.clock.hour, t.start.clock.minute) ∧
      readTimes? (t.detailsText ++ closer :: more) =
        some ⟨start, t.until?.map fun c => (c.hour, c.minute), t.interval, closer⟩ := by
  have readEnd := readEnd?_intervalText isRead closes more
  have isStart := spellsTime_short isRead.clock
  cases finish : t.until? with
  | some last =>
      have isFinish := spellsTime_short (isRead.finish last finish)
      have text : t.detailsText ++ closer :: more = [' '] ++
          (t.start.clock.short ++ '-' :: last.short ++
            (t.intervalText.flatMap (' ' :: ·) ++ closer :: more)) := by
        simp [detailsText, timeText, finish]
      rw [text, readTimes?_of_span isGap_space (.span isStart isFinish) readEnd]
      exact ⟨some (t.start.clock.hour, t.start.clock.minute), rfl, rfl⟩
  | none =>
      by_cases timed : t.hasTime = true
      · have text : t.detailsText ++ closer :: more = [' '] ++
            (t.start.clock.short ++ (t.intervalText.flatMap (' ' :: ·) ++ closer :: more)) := by
          simp [detailsText, timeText, finish, timed]
        rw [text, readTimes?_of_span isGap_space (.time isStart) readEnd]
        exact ⟨some (t.start.clock.hour, t.start.clock.minute), rfl, rfl⟩
      · have untimed : t.hasTime = false := by simpa using timed
        have midnight : t.start.clock.hour = 0 ∧ t.start.clock.minute = 0 := by
          simp only [hasTime, Bool.or_eq_false_iff, bne_eq_false_iff_eq] at untimed
          exact untimed.1
        refine ⟨none, by rw [midnight.1, midnight.2]; rfl, ?_⟩
        have text : t.detailsText ++ closer :: more =
            (t.interval.map (' ' :: ·)).getD [] ++ closer :: more := by
          simp [detailsText, timeText, finish, untimed, ← flatMap_intervalText isRead]
        rw [text]
        cases isSome : t.interval with
        | none =>
            have notSpan : ¬IsSpanText (nextWord (closer :: more)) := by
              have noGap : ∀ c ∈ ([] : Text), Text.isBlank c = true := by simp
              have next : nextWord (closer :: more) = [] := nextWord_of_closer noGap closes more
              rw [next]
              exact fun span => span.isWord.nonempty rfl
            rw [flatMap_intervalText isRead, isSome] at readEnd
            simp only [Option.map_none, Option.getD_none, List.nil_append] at readEnd ⊢
            rw [readTimes?_of_not_span notSpan, readEnd]
            rfl
        | some interval =>
            exact readTimes?_of_not_beginsLikeTime (isRead.interval interval isSome) closes more
              (unlike finish untimed interval isSome)

end Written

/-! ## The whole timestamp -/

theorem isWeekday_weekdayName (d : Date) : IsWeekday (weekdayName d) := by
  have all : ∀ weekday < 7, ((weekdayNames[weekday]?.getD "").toList).length = 3 ∧
      ((weekdayNames[weekday]?.getD "").toList.all isWeekdayLetter) = true := by
    decide +kernel
  obtain ⟨length, letters⟩ := all d.weekday (Nat.mod_lt _ (by decide))
  exact (isWeekday_iff _).mpr ⟨length, List.all_eq_true.mp letters⟩

theorem isNumeral_year {n : Nat} (long : 1000 ≤ n) (bound : n ≤ 9999) :
    IsNumeral 4 (Text.ofNat n) := by
  have filled : Text.padded 4 n = Text.ofNat n := Text.padded_eq_ofNat long
  rw [← filled]
  exact ⟨Text.length_padded (by decide) (by omega),
    fun _ member => Text.isDecimal_of_isDigit (Text.isDigit_of_mem_padded member)⟩

/-- A year that has fewer than four digits is not read. -/
theorem readNumber?_short_year {n : Nat} (short : n < 1000) (rest : Text) :
    readNumber? 4 (Text.ofNat n ++ '-' :: rest) = none := by
  have length : (Text.ofNat n).length < 4 :=
    Nat.lt_succ_of_le ((Nat.length_toDigits_le_iff (b := 10) (k := 3) (by decide)
      (by decide)).mpr short)
  have dash : Text.isDecimal '-' = false := by decide +kernel
  rw [readNumber?, takeExactly_eq_none length dash, Option.map_none]

/-- What stands between the brackets. -/
def bodyText (t : Timestamp) : Text :=
  dateText t.start.date ++ ' ' :: weekdayName t.start.date ++ t.detailsText

/-- What stands in front of the bracket. -/
def labelText (t : Timestamp) : Text :=
  match t.plan.label? with
  | some label => label.toList ++ [':', ' ']
  | none => []

def opener (t : Timestamp) : Char := if t.isActive then '<' else '['

theorem opener_opens (t : Timestamp) : (t.opener = '<' || t.opener = '[') = true := by
  unfold opener
  split <;> rfl

theorem isCloser_closerOf (c : Char) : isCloser (closerOf c) = true := by
  unfold closerOf
  split <;> rfl

theorem render_eq (t : Timestamp) :
    t.render = t.labelText ++ t.opener :: (t.bodyText ++ [closerOf t.opener]) := by
  have body : Text.join [' '] (dateText t.start.date :: weekdayName t.start.date ::
      (t.timeText ++ t.intervalText)) = t.bodyText := by
    rw [Text.join_space_cons, bodyText, detailsText, List.flatMap_cons]
    simp
  cases active : t.isActive <;> cases label : t.plan.label? <;>
    simp [render, body, labelText, opener, active, label, closerOf]

theorem bodyText_append (t : Timestamp) (behind : Text) :
    t.bodyText ++ behind = Text.ofNat t.start.date.year ++ '-' ::
      (Text.padded 2 t.start.date.month ++ '-' :: (Text.padded 2 t.start.date.day ++
        (' ' :: (weekdayName t.start.date ++ (t.detailsText ++ behind))))) := by
  simp [bodyText, dateText]

theorem readBracket?_bodyText {t : Timestamp} (isRead : t.IsRead)
    (long : 1000 ≤ t.start.date.year) {label : Option Text} {behind : Text} {d : Details}
    (read : readTimes? (t.detailsText ++ behind) = some d) :
    readBracket? label (t.opener :: (t.bodyText ++ behind)) =
      some ⟨label, t.opener, t.start.date.year, t.start.date.month, t.start.date.day, d⟩ := by
  obtain ⟨-, year, month, day⟩ := Date.bounds_of_of? isRead.date
  have isMonth := isNumeral_padded (n := t.start.date.month) (by omega)
  have isDay := isNumeral_padded (n := t.start.date.day) (by omega)
  have readDetails := readDetails?_of_weekday isGap_space (isWeekday_weekdayName t.start.date) read
  rw [List.singleton_append] at readDetails
  rw [readBracket?, if_pos t.opener_opens, bodyText_append,
    readNumber?_append (isNumeral_year long year)]
  simp only [Option.bind_eq_bind, Option.bind_some, readChar?_cons, readNumber?_append isMonth,
    readNumber?_append isDay, readDetails, Text.digitsValue_ofNat, Text.digitsValue_padded]

theorem readBracket?_short_year {t : Timestamp} (short : t.start.date.year < 1000)
    (label : Option Text) (behind : Text) :
    readBracket? label (t.opener :: (t.bodyText ++ behind)) = none := by
  rw [readBracket?, if_pos t.opener_opens, bodyText_append, readNumber?_short_year short]
  rfl

theorem readWord?_self (word rest : Text) : readWord? word (word ++ rest) = some (word, rest) := by
  induction word with
  | nil => rfl
  | cons letter word induction => simp [readWord?, isLetterOf, induction]

theorem readWord?_of_other {letter c : Char} (other : isLetterOf letter c = false)
    (word rest : Text) : readWord? (letter :: word) (c :: rest) = none := by
  simp [readWord?, other]

section Label

variable {plan : Plan} {label : String} (isLabel : plan.label? = some label)
include isLabel

theorem readLabel?_label (rest : Text) :
    readLabel? (label.toList ++ [':', ' '] ++ rest) = some (label.toList, rest.trimLeft) := by
  have blank : Text.isBlank ' ' = true := by decide
  have other : isLetterOf 'D' 'S' = false := by decide +kernel
  have noDeadline : readWord? "DEADLINE".toList ("SCHEDULED".toList ++ ([':', ' '] ++ rest)) =
      none := readWord?_of_other other _ _
  rw [readLabel?, List.findSome?_cons, List.findSome?_cons, List.append_assoc]
  cases plan with
  | scheduled =>
      obtain rfl := Option.some.inj isLabel
      rw [noDeadline, readWord?_self]
      simp [readChar?, Text.trimLeft_blank_cons blank]
  | deadline =>
      obtain rfl := Option.some.inj isLabel
      rw [readWord?_self]
      simp [readChar?, Text.trimLeft_blank_cons blank]
  | plain => cases isLabel

theorem trimLeft_label (rest : Text) :
    Text.trimLeft (label.toList ++ rest) = label.toList ++ rest := by
  have solid : Text.isBlank 'D' = false ∧ Text.isBlank 'S' = false := by decide
  cases plan with
  | scheduled =>
      obtain rfl := Option.some.inj isLabel
      exact Text.trimLeft_cons_of_not_blank solid.2 _
  | deadline =>
      obtain rfl := Option.some.inj isLabel
      exact Text.trimLeft_cons_of_not_blank solid.1 _
  | plain => cases isLabel

end Label

theorem readLabel?_of_opener {opener : Char} (opens : opener = '<' ∨ opener = '[')
    (rest : Text) : readLabel? (opener :: rest) = none := by
  have other : isLetterOf 'D' '<' = false ∧ isLetterOf 'S' '<' = false ∧
      isLetterOf 'D' '[' = false ∧ isLetterOf 'S' '[' = false := by
    decide +kernel
  have deadline : isLetterOf 'D' opener = false := by
    rcases opens with rfl | rfl
    · exact other.1
    · exact other.2.2.1
  have scheduled : isLetterOf 'S' opener = false := by
    rcases opens with rfl | rfl
    · exact other.2.1
    · exact other.2.2.2
  have noDeadline : readWord? "DEADLINE".toList (opener :: rest) = none :=
    readWord?_of_other deadline _ _
  have noScheduled : readWord? "SCHEDULED".toList (opener :: rest) = none :=
    readWord?_of_other scheduled _ _
  simp only [readLabel?, List.findSome?_cons, noDeadline, noScheduled, Option.bind_eq_bind,
    Option.bind_none, List.findSome?_nil]

theorem readParts?_render (t : Timestamp) :
    readParts? t.render = readBracket? (t.plan.label?.map (·.toList))
      (t.opener :: (t.bodyText ++ [closerOf t.opener])) := by
  have notBlank : Text.isBlank t.opener = false := by
    unfold opener
    split <;> rfl
  have front := Text.trimLeft_cons_of_not_blank notBlank (t.bodyText ++ [closerOf t.opener])
  have noLabel := readLabel?_of_opener (by simpa using t.opener_opens)
    (t.bodyText ++ [closerOf t.opener])
  rw [render_eq]
  generalize t.opener :: (t.bodyText ++ [closerOf t.opener]) = bracketed at front noLabel ⊢
  cases isLabel : t.plan.label? with
  | none =>
      simp only [labelText, isLabel, readParts?, List.nil_append, front, noLabel,
        Option.map_none]
  | some label =>
      have whole := trimLeft_label isLabel ([':', ' '] ++ bracketed)
      rw [← List.append_assoc] at whole
      simp only [labelText, isLabel, readParts?, whole, readLabel?_label isLabel, front,
        Option.map_some]

/-- The parts as which a timestamp is read back where nothing is lost denote its moments. -/
theorem moments_of_isRead {t : Timestamp} (isRead : t.IsRead) {p : Parts}
    (year : p.year = t.start.date.year) (month : p.month = t.start.date.month)
    (day : p.day = t.start.date.day)
    (start : p.details.start.getD (0, 0) = (t.start.clock.hour, t.start.clock.minute))
    (finish : p.details.finish = t.until?.map fun c => (c.hour, c.minute)) :
    p.moments = .ok (t.start, t.until?) := by
  rw [Parts.moments_eq_ok_iff, start, year, month, day, finish]
  refine ⟨rfl, ((Date.of?_eq_ok_iff _ _ _ _).mp isRead.date).2, isRead.clock.isAt, ?_⟩
  cases last : t.until? with
  | none => exact .none
  | some c => exact .some (isRead.finish c last).isAt

theorem planOf_label? (plan : Plan) : planOf (plan.label?.map (·.toList)) = .ok plan := by
  cases plan <;> decide +kernel

theorem parse_render_eq_ok {t : Timestamp} (isRead : t.IsRead) (long : 1000 ≤ t.start.date.year)
    (unlike : t.until? = none → t.hasTime = false →
      ∀ interval, t.interval = some interval → ¬BeginsLikeTime interval) :
    parse t.render = .ok t := by
  obtain ⟨start, time, readTimes⟩ :=
    readTimes?_detailsText isRead (isCloser_closerOf t.opener) [] unlike
  have readParts := readParts?_render t
  rw [readBracket?_bodyText isRead long readTimes] at readParts
  have moments := moments_of_isRead isRead
    (p := ⟨t.plan.label?.map (·.toList), t.opener, t.start.date.year, t.start.date.month,
      t.start.date.day, ⟨start, t.until?.map fun c => (c.hour, c.minute), t.interval,
        closerOf t.opener⟩⟩) rfl rfl rfl time rfl
  have active : decide (t.opener = '<') = t.isActive := by
    unfold opener
    cases t.isActive <;> rfl
  simp only [parse, readParts, planOf_label?, moments, active, ne_eq, not_true_eq_false,
    if_false]

/-- A year below 1000 is written with fewer than four digits, and cannot be read. -/
theorem parse_render_of_short_year {t : Timestamp} (short : t.start.date.year < 1000) :
    parse t.render = .error (.malformed t.render.trim) := by
  simp only [parse, readParts?_render, readBracket?_short_year short]

/-- Behind a time that is left out, an interval that begins like a time is lost. -/
theorem parse_render_ne_ok {t : Timestamp} (isRead : t.IsRead)
    (untimed : t.until? = none ∧ t.hasTime = false) {interval : Text}
    (isSome : t.interval = some interval) (like : BeginsLikeTime interval) :
    parse t.render ≠ .ok t := by
  intro same
  by_cases long : 1000 ≤ t.start.date.year
  · obtain ⟨start, finish, last, differs, readTimes⟩ :=
      readTimes?_of_beginsLikeTime (isRead.interval interval isSome)
        (isCloser_closerOf t.opener) [] like
    have details : t.detailsText = ' ' :: interval := by
      have nonempty := (isRead.interval interval isSome).nonempty
      simp [detailsText, timeText, intervalText, untimed.1, untimed.2, isSome, nonempty]
    rw [← details] at readTimes
    have readParts := readParts?_render t
    rw [readBracket?_bodyText isRead long readTimes] at readParts
    simp only [parse, readParts, planOf_label?, ne_eq, not_true_eq_false, if_false] at same
    split at same
    · cases same
    · -- Whatever the time is, the interval is no longer the same.
      have lost := congrArg Timestamp.interval (Except.ok.inj same)
      rw [isSome] at lost
      exact differs lost
  · rw [parse_render_of_short_year (by omega)] at same
    cases same

/-- What is needed for a timestamp to be read back from its writing. -/
structure IsWritable (t : Timestamp) : Prop where
  year : 1000 ≤ t.start.date.year
  interval : t.until? = none → t.hasTime = false →
    ∀ interval, t.interval = some interval → ¬BeginsLikeTime interval

/-- A timestamp that has been read is read back from its writing exactly if its year has four digits
and no interval that begins like a time stands behind a time of midnight that is left out. -/
theorem parse_render_eq_ok_iff {line : Text} {t : Timestamp} (read : parse line = .ok t) :
    parse t.render = .ok t ↔ t.IsWritable := by
  have isRead := isRead_of_parse read
  constructor
  · intro readBack
    refine ⟨?_, ?_⟩
    · by_contra short
      rw [parse_render_of_short_year (by omega)] at readBack
      cases readBack
    · intro noFinish untimed interval isSome like
      exact parse_render_ne_ok isRead ⟨noFinish, untimed⟩ isSome like readBack
  · intro writable
    exact parse_render_eq_ok isRead writable.year writable.interval

/-- A repeater is read back although midnight is left out in front of it. -/
theorem parse_render_of_repeater :
    ∃ t, parse "SCHEDULED: [2021-08-28 00:00 ++1w]".toList = .ok t ∧
      t.render = "SCHEDULED: [2021-08-28 Sat ++1w]".toList ∧ parse t.render = .ok t := by
  have read : parse "SCHEDULED: [2021-08-28 00:00 ++1w]".toList =
      .ok ⟨.scheduled, false, ⟨⟨2021, 8, 28⟩, .midnight⟩, none, some "++1w".toList⟩ := by
    decide +kernel
  have sign : Text.isDecimal '+' = false := by decide +kernel
  have writable : IsWritable
      ⟨.scheduled, false, ⟨⟨2021, 8, 28⟩, .midnight⟩, none, some "++1w".toList⟩ := by
    refine ⟨by decide, fun _ _ interval isSome => ?_⟩
    rw [← Option.some.inj isSome]
    exact not_beginsLikeTime_cons sign _
  exact ⟨_, read, by decide +kernel, (parse_render_eq_ok_iff read).mpr writable⟩

/-- Not every timestamp is read back: the year 999 is written with three digits, and the
interval behind a midnight that is left out is read as the time. -/
theorem lost_in_render :
    (∃ t, parse "<0999-12-31 10:00>".toList = .ok t ∧
      t.render = "<999-12-31 Tue 10:00>".toList ∧
      parse t.render = .error (.malformed t.render)) ∧
    (∃ t, parse "<2021-08-28 Sat 00:00 10:00>".toList = .ok t ∧
      t.render = "<2021-08-28 Sat 10:00>".toList ∧
      parse t.render =
        .ok { t with start := ⟨t.start.date, ⟨10, 0, 0, 0⟩⟩, interval := none }) := by
  refine ⟨⟨⟨.plain, true, ⟨⟨999, 12, 31⟩, ⟨10, 0, 0, 0⟩⟩, none, none⟩, ?_⟩,
    ⟨⟨.plain, true, ⟨⟨2021, 8, 28⟩, .midnight⟩, none, some "10:00".toList⟩, ?_⟩⟩ <;>
    decide +kernel

end Timestamp

end OutlineSearch
