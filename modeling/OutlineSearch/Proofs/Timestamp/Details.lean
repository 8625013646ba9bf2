import OutlineSearch.Proofs.Timestamp.Words

/-!
# What stands behind the date

A weekday, the times and an interval stand behind the date, each behind blanks and each optional.
What could be the weekday or the times is not left to the interval.  What is read there is exactly
what is spelled.
-/

namespace OutlineSearch.Timestamp

/-- A weekday behind blanks, or none. -/
inductive SpellsWeekday : Text → Prop where
  | absent : SpellsWeekday []
  | present {gap word : Text} : IsGap gap → IsWeekday word → SpellsWeekday (gap ++ word)

/-- Hour and minute, whether or not there is such a time. -/
inductive SpellsTime : Time → Text → Prop where
  | numerals {hour minute : Text} : IsNumeral 2 hour → IsNumeral 2 minute →
      SpellsTime (hour.digitsValue, minute.digitsValue) (hour ++ ':' :: minute)

/-- A time, or a span between two times. -/
inductive SpellsSpan : Time → Option Time → Text → Prop where
  | time {start : Time} {text : Text} : SpellsTime start text → SpellsSpan start none text
  | span {start finish : Time} {text more : Text} :
      SpellsTime start text → SpellsTime finish more →
      SpellsSpan start (some finish) (text ++ '-' :: more)

/-- The times behind blanks, or none. -/
inductive SpellsTimes : Option Time → Option Time → Text → Prop where
  | absent : SpellsTimes none none []
  | present {start : Time} {finish : Option Time} {gap word : Text} :
      IsGap gap → SpellsSpan start finish word → SpellsTimes (some start) finish (gap ++ word)

/-- An interval behind blanks, or none. -/
inductive SpellsInterval : Option Text → Text → Prop where
  | absent : SpellsInterval none []
  | present {gap interval : Text} :
      IsGap gap → IsInterval interval → SpellsInterval (some interval) (gap ++ interval)

/-- A way to spell what stands behind the weekday. -/
structure AfterWeekday (start finish : Option Time) (interval : Option Text) where
  times : Text
  words : Text
  gap : Text
  times_spelled : SpellsTimes start finish times
  words_spelled : SpellsInterval interval words
  gap_blank : ∀ c ∈ gap, Text.isBlank c = true
  /-- What could be the times is not left to the interval. -/
  notTimes : start = none → ∀ i, interval = some i → ¬IsSpanText (firstWord i)

def AfterWeekday.text {start finish : Option Time} {interval : Option Text}
    (after : AfterWeekday start finish interval) : Text :=
  after.times ++ (after.words ++ after.gap)

/-- A way to spell what stands behind the date. -/
structure AfterDate (start finish : Option Time) (interval : Option Text) where
  weekday : Text
  rest : AfterWeekday start finish interval
  weekday_spelled : SpellsWeekday weekday
  /-- Nor is what could be the weekday. -/
  notWeekday : weekday = [] → start = none → ∀ i, interval = some i → ¬IsWeekday (firstWord i)

def AfterDate.text {start finish : Option Time} {interval : Option Text}
    (after : AfterDate start finish interval) : Text :=
  after.weekday ++ after.rest.text

/-! ## The interval and the closing bracket -/

theorem ends_of_readEnd? {text : Text} {interval : Option Text} {closer : Char}
    (read : readEnd? text = some (interval, closer)) : Ends text := by
  obtain ⟨body, more, rfl, closes, inside⟩ := exists_body_of_readEnd? read
  refine ⟨?_, closer, by simp, closes⟩
  cases body with
  | nil => simpa using isInner_of_closer closes
  | cons first body =>
      have blank : Text.isBlank first = true := by
        rw [readEnd?_append inside closes] at read
        by_contra solid
        simp [Text.isAllBlank, readBlanks?, solid] at read
      simpa using isInner_of_blank blank

theorem exists_readEnd?_of_ends {text : Text} (ends : Ends text) :
    ∃ interval closer, readEnd? text = some (interval, closer) := by
  obtain ⟨closer, first⟩ := Option.isSome_iff_exists.mp (List.find?_isSome.mpr ends.closes)
  obtain ⟨closes, body, more, rfl, inside⟩ := List.find?_eq_some_iff_append.mp first
  rw [readEnd?_append (by simpa using inside) closes]
  split
  · exact ⟨none, closer, rfl⟩
  · rename_i solid
    cases body with
    | nil => simp [Text.isAllBlank] at solid
    | cons c body =>
        have blank : Text.isBlank c = true := by
          have stops := ends.stops c rfl
          have inBody : isCloser c = false := by simpa using inside c List.mem_cons_self
          simpa [isInner, inBody] using stops
        simp [readBlanks?, blank]

/-- An optional interval behind blanks is read up to the first closing bracket, without the blanks
around it. -/
theorem exists_of_readEnd? {text : Text} {interval : Option Text} {closer : Char}
    (read : readEnd? text = some (interval, closer)) : isCloser closer = true ∧
      ∃ words gap rest, SpellsInterval interval words ∧ (∀ c ∈ gap, Text.isBlank c = true) ∧
        text = words ++ (gap ++ closer :: rest) := by
  obtain ⟨body, more, rfl, closes, inside⟩ := exists_body_of_readEnd? read
  refine ⟨closes, ?_⟩
  rw [readEnd?_append inside closes] at read
  split at read
  · rename_i blank
    obtain rfl : none = interval := (Prod.mk.inj (Option.some.inj read)).1
    exact ⟨[], body, more, .absent, List.all_eq_true.mp blank, rfl⟩
  · rename_i solid
    obtain ⟨trimmed, readBlanks, same⟩ := Option.map_eq_some_iff.mp read
    obtain ⟨rfl, -⟩ := Prod.mk.inj same
    rw [readBlanks?] at readBlanks
    split at readBlanks
    · rename_i blank
      obtain rfl := Option.some.inj readBlanks
      refine ⟨body.takeWhile Text.isBlank ++ body.trim,
        List.rtakeWhile Text.isBlank (Text.trimLeft body), more,
        .present (IsGap.takeWhile blank) (isInterval_trim inside (by simpa using solid)),
        fun c member => List.mem_rtakeWhile_imp member, ?_⟩
      rw [List.append_assoc, ← List.append_assoc (Text.trim body), Text.trim,
        Text.trimRight_eq_rdropWhile, List.rdropWhile_append_rtakeWhile, ← List.append_assoc,
        Text.trimLeft, List.takeWhile_append_dropWhile]
    · cases readBlanks

theorem readEnd?_of_spellsInterval {interval : Option Text} {words gap : Text} {closer : Char}
    (closes : isCloser closer = true) (spelled : SpellsInterval interval words)
    (blank : ∀ c ∈ gap, Text.isBlank c = true) (rest : Text) :
    readEnd? (words ++ (gap ++ closer :: rest)) = some (interval, closer) := by
  have openGap : ∀ c ∈ gap, isCloser c = false :=
    fun c member => isCloser_of_blank (blank c member)
  cases spelled with
  | absent =>
      rw [List.nil_append, readEnd?_append openGap closes]
      rw [if_pos (by simpa [Text.isAllBlank] using blank)]
  | @present front interval isGap isInterval =>
      have inside : ∀ c ∈ front ++ (interval ++ gap), isCloser c = false := by
        rw [List.forall_mem_append, List.forall_mem_append]
        exact ⟨fun c member => isCloser_of_blank (isGap.blank c member), isInterval.inside,
          openGap⟩
      have solid : Text.isAllBlank (front ++ (interval ++ gap)) = false := by
        have notBlank := isInterval.not_isAllBlank
        rw [Text.isAllBlank] at notBlank
        simp [Text.isAllBlank, notBlank]
      have front_solid : ∀ c ∈ (interval ++ gap).head?, Text.isBlank c = false := by
        obtain ⟨c, more, rfl⟩ := List.exists_cons_of_ne_nil isInterval.nonempty
        exact isInterval.front
      have whole : front ++ interval ++ (gap ++ closer :: rest) =
          front ++ (interval ++ gap) ++ closer :: rest := by simp
      rw [whole, readEnd?_append inside closes, solid, readBlanks?_append isGap front_solid]
      simp [Text.trimRight_append_blanks blank, isInterval.trimRight_eq]

theorem stops_closing {gap : Text} (blank : ∀ c ∈ gap, Text.isBlank c = true) {closer : Char}
    (closes : isCloser closer = true) (rest : Text) :
    ∀ c ∈ (gap ++ closer :: rest).head?, isInner c = false := by
  cases gap with
  | nil => simpa using isInner_of_closer closes
  | cons first gap => simpa using isInner_of_blank (blank first List.mem_cons_self)

/-- Where no times stand, the next word is the first one of the interval. -/
theorem nextWord_of_spellsInterval {interval : Option Text} {words gap : Text} {closer : Char}
    (spelled : SpellsInterval interval words) (blank : ∀ c ∈ gap, Text.isBlank c = true)
    (closes : isCloser closer = true) (rest : Text) :
    nextWord (words ++ (gap ++ closer :: rest)) = (interval.map firstWord).getD [] := by
  cases spelled with
  | absent => exact nextWord_of_closer blank closes rest
  | present isGap isInterval =>
      rw [List.append_assoc]
      exact isInterval.nextWord_append isGap.blank (stops_closing blank closes rest)

/-! ## The times -/

theorem isClockText_iff (text : Text) : IsClockText text ↔ ∃ time, SpellsTime time text := by
  constructor
  · rintro ⟨hour, minute, isHour, isMinute, rfl⟩
    exact ⟨_, .numerals isHour isMinute⟩
  · rintro ⟨-, ⟨isHour, isMinute⟩⟩
    exact ⟨_, _, isHour, isMinute, rfl⟩

theorem isSpanText_iff (text : Text) :
    IsSpanText text ↔ ∃ start finish, SpellsSpan start finish text := by
  constructor
  · rintro (clock | ⟨first, second, isStart, isFinish, rfl⟩)
    · obtain ⟨time, spelled⟩ := (isClockText_iff text).mp clock
      exact ⟨time, none, .time spelled⟩
    · obtain ⟨start, spelled⟩ := (isClockText_iff first).mp isStart
      obtain ⟨finish, spelledToo⟩ := (isClockText_iff second).mp isFinish
      exact ⟨start, some finish, .span spelled spelledToo⟩
  · rintro ⟨start, finish, spelled | ⟨spelled, spelledToo⟩⟩
    · exact .inl ((isClockText_iff _).mpr ⟨_, spelled⟩)
    · exact .inr ⟨_, _, (isClockText_iff _).mpr ⟨_, spelled⟩,
        (isClockText_iff _).mpr ⟨_, spelledToo⟩, rfl⟩

theorem readTime?_of_spellsTime {time : Time} {text : Text} (spelled : SpellsTime time text)
    (rest : Text) : readTime? (text ++ rest) = some (time, rest) := by
  obtain ⟨isHour, isMinute⟩ := spelled
  exact readTime?_append isHour isMinute rest

theorem exists_of_readTime? {text rest : Text} {time : Time}
    (read : readTime? text = some (time, rest)) :
    ∃ clock, SpellsTime time clock ∧ text = clock ++ rest := by
  obtain ⟨clock, isClock, rfl⟩ := exists_clockText_of_readTime? read
  obtain ⟨found, spelled⟩ := (isClockText_iff clock).mp isClock
  rw [readTime?_of_spellsTime spelled] at read
  obtain ⟨rfl, -⟩ := Prod.mk.inj (Option.some.inj read)
  exact ⟨clock, spelled, rfl⟩

theorem readSpan?_append {gap word tail : Text} {start : Time} {finish : Option Time}
    (isGap : IsGap gap) (spelled : SpellsSpan start finish word)
    (stops : ∀ c ∈ tail.head?, isInner c = false) :
    readSpan? (gap ++ (word ++ tail)) = some (start, finish, tail) := by
  have isWord := ((isSpanText_iff word).mpr ⟨_, _, spelled⟩).isWord
  rw [readSpan?, readBlanks?_append isGap (isWord.solid_append tail), Option.bind_eq_bind,
    Option.bind_some]
  cases spelled with
  | time isStart =>
      have noDash : readChar? '-' tail = none := by
        cases tail with
        | nil => rfl
        | cons c tail =>
            have differs : '-' ≠ c := by
              rintro rfl
              have inner := stops '-' rfl
              revert inner
              decide
            simp [readChar?, differs]
      simp only [readTime?_of_spellsTime isStart, noDash, Option.bind_eq_bind, Option.bind_some,
        Option.bind_none]
  | span isStart isFinish =>
      simp only [List.append_assoc, List.cons_append, readTime?_of_spellsTime isStart,
        readTime?_of_spellsTime isFinish, readChar?_cons, Option.bind_eq_bind, Option.bind_some]

theorem exists_of_readSpan? {text rest : Text} {start : Time} {finish : Option Time}
    (read : readSpan? text = some (start, finish, rest)) :
    ∃ gap word, IsGap gap ∧ SpellsSpan start finish word ∧ text = gap ++ (word ++ rest) := by
  simp only [readSpan?, Option.bind_eq_bind, Option.bind_eq_some_iff] at read
  obtain ⟨afterBlanks, readBlanks, ⟨time, afterStart⟩, readStart, read⟩ := read
  obtain ⟨gap, isGap, rfl⟩ := exists_gap_of_readBlanks? readBlanks
  obtain ⟨clock, isStart, rfl⟩ := exists_of_readTime? readStart
  split at read
  · rename_i time' more second
    obtain ⟨rfl, rfl, rfl⟩ : time = start ∧ some time' = finish ∧ more = rest := by
      simpa using read
    obtain ⟨afterDash, dash, readFinish⟩ := Option.bind_eq_some_iff.mp second
    obtain rfl := eq_cons_of_readChar? dash
    obtain ⟨last, isFinish, rfl⟩ := exists_of_readTime? readFinish
    exact ⟨gap, _, isGap, .span isStart isFinish, by simp⟩
  · obtain ⟨rfl, rfl, rfl⟩ : time = start ∧ none = finish ∧ afterStart = rest := by
      simpa using read
    exact ⟨gap, clock, isGap, .time isStart, rfl⟩

/-- Times behind which no word goes on are read as such. -/
theorem readTimes?_of_span {gap word tail : Text} {start : Time} {finish : Option Time}
    {interval : Option Text} {closer : Char} (isGap : IsGap gap)
    (spelled : SpellsSpan start finish word) (read : readEnd? tail = some (interval, closer)) :
    readTimes? (gap ++ (word ++ tail)) = some ⟨some start, finish, interval, closer⟩ := by
  rw [readTimes?, readSpan?_append isGap spelled (ends_of_readEnd? read).stops]
  simp only [read, Option.bind_eq_bind, Option.bind_some]
  rfl

theorem readTimes?_of_not_span {text : Text} (notSpan : ¬IsSpanText (nextWord text)) :
    readTimes? text = (readEnd? text).map fun (interval, closer) =>
      ⟨none, none, interval, closer⟩ := by
  have noTimes : ∀ start finish rest, readSpan? text = some (start, finish, rest) →
      readEnd? rest = none := by
    intro start finish rest readSpan
    obtain ⟨gap, word, isGap, spelled, rfl⟩ := exists_of_readSpan? readSpan
    have span := (isSpanText_iff word).mpr ⟨_, _, spelled⟩
    cases read : readEnd? rest with
    | none => rfl
    | some found =>
        -- No word goes on behind these times, so they are the next word.
        rw [nextWord_append isGap.blank span.isWord (ends_of_readEnd? read).stops] at notSpan
        exact (notSpan span).elim
  rw [readTimes?]
  cases readSpan : readSpan? text with
  | none =>
      simp only [Option.bind_eq_bind, Option.bind_none]
      cases readEnd? text <;> rfl
  | some parts =>
      obtain ⟨start, finish, rest⟩ := parts
      simp only [noTimes start finish rest readSpan, Option.bind_eq_bind, Option.bind_some,
        Option.bind_none]
      cases readEnd? text <;> rfl

theorem ends_of_readTimes? {text : Text} {d : Details} (read : readTimes? text = some d) :
    Ends text := by
  rw [readTimes?, Option.orElse_eq_some] at read
  rcases read with withTimes | ⟨-, withoutTimes⟩
  · simp only [Option.bind_eq_bind, Option.bind_eq_some_iff] at withTimes
    obtain ⟨⟨start, finish, rest⟩, readSpan, ⟨interval, closer⟩, readEnd, -⟩ := withTimes
    obtain ⟨gap, word, isGap, -, rfl⟩ := exists_of_readSpan? readSpan
    exact (ends_of_readEnd? readEnd).append isGap word
  · simp only [Option.bind_eq_bind, Option.bind_eq_some_iff] at withoutTimes
    obtain ⟨⟨interval, closer⟩, readEnd, -⟩ := withoutTimes
    exact ends_of_readEnd? readEnd

/-- What is read behind the weekday is spelled there. -/
theorem exists_of_readTimes? {text : Text} {d : Details} (read : readTimes? text = some d) :
    isCloser d.closer = true ∧ ∃ (after : AfterWeekday d.start d.finish d.interval) (rest : Text),
      text = after.text ++ d.closer :: rest := by
  -- Where the next word could be the times, the closing bracket is reached behind it as well.
  by_cases span : IsSpanText (nextWord text)
  · obtain ⟨gap, tail, isGap, ends, whole⟩ :=
      exists_nextWord_of_ends (ends_of_readTimes? read) span.isWord
    obtain ⟨start, finish, spelled⟩ := (isSpanText_iff _).mp span
    obtain ⟨interval, closer, readEnd⟩ := exists_readEnd?_of_ends ends
    rw [whole, readTimes?_of_span isGap spelled readEnd] at read
    obtain rfl := Option.some.inj read
    obtain ⟨closes, words, blanks, rest, intervalSpelled, blank, rfl⟩ :=
      exists_of_readEnd? readEnd
    refine ⟨closes, ⟨gap ++ nextWord text, words, blanks, .present isGap spelled,
      intervalSpelled, blank, fun absent => nomatch absent⟩, rest, ?_⟩
    rw [AfterWeekday.text]
    simpa using whole
  · rw [readTimes?_of_not_span span] at read
    obtain ⟨⟨interval, closer⟩, readEnd, rfl⟩ := Option.map_eq_some_iff.mp read
    obtain ⟨closes, words, blanks, rest, spelled, blank, rfl⟩ := exists_of_readEnd? readEnd
    rw [nextWord_of_spellsInterval spelled blank closes] at span
    refine ⟨closes, ⟨[], words, blanks, .absent, spelled, blank, ?_⟩, rest, ?_⟩
    · rintro - i rfl
      exact span
    · simp [AfterWeekday.text]

/-- What is spelled behind the weekday is read. -/
theorem readTimes?_afterWeekday {start finish : Option Time} {interval : Option Text}
    {closer : Char} (closes : isCloser closer = true) (after : AfterWeekday start finish interval)
    (rest : Text) :
    readTimes? (after.text ++ closer :: rest) = some ⟨start, finish, interval, closer⟩ := by
  obtain ⟨times, words, gap, timesSpelled, spelled, blank, notTimes⟩ := after
  have readEnd := readEnd?_of_spellsInterval closes spelled blank rest
  dsimp only [AfterWeekday.text] at timesSpelled notTimes ⊢
  cases timesSpelled with
  | absent =>
      have notSpan : ¬IsSpanText (nextWord (words ++ (gap ++ closer :: rest))) := by
        rw [nextWord_of_spellsInterval spelled blank closes]
        cases interval with
        | none => exact fun span => span.isWord.nonempty rfl
        | some i => exact notTimes rfl i rfl
      have read := readTimes?_of_not_span notSpan
      rw [readEnd] at read
      simpa using read
  | present isGap isSpan =>
      have read := readTimes?_of_span isGap isSpan readEnd
      simpa using read

/-! ## The weekday -/

theorem readWeekday?_append {gap word : Text} (isGap : IsGap gap) (isWeekday : IsWeekday word)
    (rest : Text) : readWeekday? (gap ++ (word ++ rest)) = some rest := by
  obtain ⟨length, letters⟩ := (isWeekday_iff word).mp isWeekday
  have taken := takeExactly_append letters rest
  rw [length] at taken
  simp only [readWeekday?, readBlanks?_append isGap (isWeekday.isWord.solid_append rest), taken,
    Option.bind_eq_bind, Option.bind_some]

theorem exists_of_readWeekday? {text rest : Text} (read : readWeekday? text = some rest) :
    ∃ gap word, IsGap gap ∧ IsWeekday word ∧ text = gap ++ (word ++ rest) := by
  simp only [readWeekday?, Option.bind_eq_bind, Option.bind_eq_some_iff] at read
  obtain ⟨afterBlanks, readBlanks, ⟨word, behind⟩, taken, same⟩ := read
  obtain rfl := Option.some.inj same
  obtain ⟨gap, isGap, rfl⟩ := exists_gap_of_readBlanks? readBlanks
  obtain ⟨rfl, length, letters⟩ := eq_append_of_takeExactly taken
  exact ⟨gap, word, isGap, (isWeekday_iff word).mpr ⟨length, letters⟩, rfl⟩

theorem readDetails?_of_weekday {gap word tail : Text} {d : Details} (isGap : IsGap gap)
    (isWeekday : IsWeekday word) (read : readTimes? tail = some d) :
    readDetails? (gap ++ (word ++ tail)) = some d := by
  rw [readDetails?, readWeekday?_append isGap isWeekday, Option.bind_eq_bind, Option.bind_some,
    read]
  rfl

theorem readDetails?_of_not_weekday {text : Text} (notWeekday : ¬IsWeekday (nextWord text)) :
    readDetails? text = readTimes? text := by
  rw [readDetails?]
  cases read : readWeekday? text with
  | none => rfl
  | some rest =>
      obtain ⟨gap, word, isGap, isWeekday, rfl⟩ := exists_of_readWeekday? read
      cases readBehind : readTimes? rest with
      | none => simp [readBehind]
      | some d =>
          -- Three letters with more of a word behind them would not have been read any further.
          have stops := (ends_of_readTimes? readBehind).stops
          rw [nextWord_append isGap.blank isWeekday.isWord stops] at notWeekday
          exact (notWeekday isWeekday).elim

theorem exists_readTimes?_of_ends {text : Text} (ends : Ends text) :
    ∃ d, readTimes? text = some d := by
  obtain ⟨interval, closer, readEnd⟩ := exists_readEnd?_of_ends ends
  rw [← Option.isSome_iff_exists, Option.isSome_iff_ne_none]
  intro nothing
  rw [readTimes?, Option.orElse_eq_none] at nothing
  simp [readEnd] at nothing

theorem ends_of_readDetails? {text : Text} {d : Details} (read : readDetails? text = some d) :
    Ends text := by
  rw [readDetails?, Option.orElse_eq_some] at read
  rcases read with withWeekday | ⟨-, withoutWeekday⟩
  · obtain ⟨rest, readWeekday, readTimes⟩ := Option.bind_eq_some_iff.mp withWeekday
    obtain ⟨gap, word, isGap, -, rfl⟩ := exists_of_readWeekday? readWeekday
    exact (ends_of_readTimes? readTimes).append isGap word
  · exact ends_of_readTimes? withoutWeekday

section NextWord

variable {start finish : Option Time} {interval : Option Text}
  (after : AfterWeekday start finish interval) {closer : Char} (closes : isCloser closer = true)
  (rest : Text)
include closes

theorem AfterWeekday.nextWord_of_times (times : start ≠ none) :
    IsSpanText (nextWord (after.text ++ closer :: rest)) := by
  obtain ⟨_, words, gap, timesSpelled, spelled, blank, -⟩ := after
  simp only [AfterWeekday.text, List.append_assoc]
  cases timesSpelled with
  | absent => exact (times rfl).elim
  | present isGap isSpan =>
      have span := (isSpanText_iff _).mpr ⟨_, _, isSpan⟩
      have readEnd := readEnd?_of_spellsInterval closes spelled blank rest
      rw [List.append_assoc,
        nextWord_append isGap.blank span.isWord (ends_of_readEnd? readEnd).stops]
      exact span

theorem AfterWeekday.nextWord_of_no_times (noTimes : start = none) :
    nextWord (after.text ++ closer :: rest) = (interval.map firstWord).getD [] := by
  obtain ⟨_, words, gap, timesSpelled, spelled, blank, -⟩ := after
  simp only [AfterWeekday.text, List.append_assoc]
  cases timesSpelled with
  | absent => exact nextWord_of_spellsInterval spelled blank closes rest
  | present => cases noTimes

end NextWord

/-- What stands behind the date is read exactly as it is spelled. -/
theorem readDetails?_eq_some_iff (text : Text) (d : Details) :
    readDetails? text = some d ↔ isCloser d.closer = true ∧
      ∃ (after : AfterDate d.start d.finish d.interval) (rest : Text),
        text = after.text ++ d.closer :: rest := by
  constructor
  · intro read
    by_cases isWeekday : IsWeekday (nextWord text)
    · obtain ⟨gap, tail, isGap, ends, whole⟩ :=
        exists_nextWord_of_ends (ends_of_readDetails? read) isWeekday.isWord
      obtain ⟨found, readTimes⟩ := exists_readTimes?_of_ends ends
      rw [whole, readDetails?_of_weekday isGap isWeekday readTimes] at read
      obtain rfl := Option.some.inj read
      obtain ⟨closes, after, rest, rfl⟩ := exists_of_readTimes? readTimes
      refine ⟨closes, ⟨gap ++ nextWord text, after, .present isGap isWeekday, ?_⟩, rest, ?_⟩
      · intro absent
        exact (isGap.nonempty (List.append_eq_nil_iff.mp absent).1).elim
      · rw [AfterDate.text]
        simpa using whole
    · rw [readDetails?_of_not_weekday isWeekday] at read
      obtain ⟨closes, after, rest, rfl⟩ := exists_of_readTimes? read
      refine ⟨closes, ⟨[], after, .absent, ?_⟩, rest, rfl⟩
      rintro - noTimes i isSome likeWeekday
      rw [after.nextWord_of_no_times closes rest noTimes, isSome] at isWeekday
      exact isWeekday likeWeekday
  · rintro ⟨closes, ⟨weekday, after, weekdaySpelled, notWeekday⟩, rest, rfl⟩
    have read := readTimes?_afterWeekday closes after rest
    dsimp only [AfterDate.text] at notWeekday ⊢
    cases weekdaySpelled with
    | absent =>
        rw [List.nil_append, readDetails?_of_not_weekday, read]
        by_cases noTimes : d.start = none
        · rw [after.nextWord_of_no_times closes rest noTimes]
          cases isSome : d.interval with
          | none => exact fun isWeekday => isWeekday.isWord.nonempty rfl
          | some i => exact notWeekday rfl noTimes i isSome
        · exact (after.nextWord_of_times closes rest noTimes).not_isWeekday
    | present isGap isWeekday =>
        rw [List.append_assoc, List.append_assoc]
        exact readDetails?_of_weekday isGap isWeekday read

end OutlineSearch.Timestamp
