import Mathlib.Data.List.DropRight
import OutlineSearch.Outline.Timestamp.Reader
import OutlineSearch.Proofs.Digits

/-!
# What is read of a timestamp

Each part of a timestamp has a shape, and a text of that shape in front of another one is
read off it.  Of the timestamp that is read, the day and the times are in range, and the
interval holds no closing bracket and has no blanks around it.
-/

namespace OutlineSearch

namespace Text

theorem trimLeft_cons_of_not_blank {c : Char} (solid : isBlank c = false) (rest : Text) :
    trimLeft (c :: rest) = c :: rest :=
  List.dropWhile_cons_of_neg (by simp [solid])

theorem trimLeft_blank_cons {c : Char} (blank : isBlank c = true) (rest : Text) :
    trimLeft (c :: rest) = trimLeft rest :=
  List.dropWhile_cons_of_pos blank

theorem length_trimLeft_le (text : Text) : text.trimLeft.length ≤ text.length :=
  (List.dropWhile_sublist _).length_le

theorem trimRight_eq_rdropWhile (text : Text) : text.trimRight = text.rdropWhile isBlank := rfl

theorem length_trimRight_le (text : Text) : text.trimRight.length ≤ text.length :=
  (List.rdropWhile_prefix isBlank text).length_le

section Blanks

variable {blanks : Text} (blank : ∀ c ∈ blanks, isBlank c = true)
include blank

theorem trimLeft_blanks_append (text : Text) : trimLeft (blanks ++ text) = trimLeft text :=
  List.dropWhile_append_of_pos blank

theorem trimRight_append_blanks (text : Text) : trimRight (text ++ blanks) = trimRight text := by
  have reversed : ∀ c ∈ blanks.reverse, isBlank c = true := by simpa using blank
  rw [trimRight, dropRightWhile, List.reverse_append, List.dropWhile_append_of_pos reversed]
  rfl

end Blanks

end Text

namespace Timestamp

theorem takeExactly_append {p : Char → Bool} {taken : Text} (all : ∀ c ∈ taken, p c = true)
    (rest : Text) : takeExactly p taken.length (taken ++ rest) = some (taken, rest) := by
  induction taken with
  | nil => rfl
  | cons c taken induction =>
      rw [List.forall_mem_cons] at all
      simp [takeExactly, all.1, induction all.2]

theorem eq_append_of_takeExactly {p : Char → Bool} {count : Nat} {text taken rest : Text}
    (read : takeExactly p count text = some (taken, rest)) :
    text = taken ++ rest ∧ taken.length = count ∧ ∀ c ∈ taken, p c = true := by
  induction count generalizing text taken rest with
  | zero =>
      obtain ⟨rfl, rfl⟩ : [] = taken ∧ text = rest := by simpa [takeExactly] using read
      exact ⟨rfl, rfl, by simp⟩
  | succ count induction =>
      cases text with
      | nil => simp [takeExactly] at read
      | cons c text =>
          rw [takeExactly] at read
          split at read
          · rename_i satisfies
            obtain ⟨⟨more, behind⟩, readMore, same⟩ := Option.map_eq_some_iff.mp read
            obtain ⟨rfl, rfl⟩ := Prod.mk.inj same
            obtain ⟨rfl, length, all⟩ := induction readMore
            exact ⟨rfl, by simp [length], List.forall_mem_cons.mpr ⟨satisfies, all⟩⟩
          · cases read

/-- A run that is too short is not read. -/
theorem takeExactly_eq_none {p : Char → Bool} {taken : Text} {count : Nat} {c : Char}
    (short : taken.length < count) (stops : p c = false) (rest : Text) :
    takeExactly p count (taken ++ c :: rest) = none := by
  induction taken generalizing count with
  | nil =>
      obtain ⟨count, rfl⟩ := Nat.exists_eq_add_of_lt short
      simp [takeExactly, stops]
  | cons d taken induction =>
      cases count with
      | zero => simp at short
      | succ count =>
          rw [List.cons_append, takeExactly, induction (by simpa using short)]
          split <;> rfl

/-- Digits of exactly this number. -/
def IsNumeral (count : Nat) (text : Text) : Prop :=
  text.length = count ∧ ∀ c ∈ text, Text.isDecimal c = true

theorem readNumber?_append {count : Nat} {digits : Text} (numeral : IsNumeral count digits)
    (rest : Text) :
    readNumber? count (digits ++ rest) = some (digits.digitsValue, rest) := by
  obtain ⟨rfl, decimal⟩ := numeral
  rw [readNumber?, takeExactly_append decimal]
  rfl

theorem exists_numeral_of_readNumber? {count value : Nat} {text rest : Text}
    (read : readNumber? count text = some (value, rest)) :
    ∃ digits, IsNumeral count digits ∧ text = digits ++ rest := by
  obtain ⟨⟨digits, behind⟩, taken, same⟩ := Option.map_eq_some_iff.mp read
  obtain ⟨rfl, rfl⟩ := Prod.mk.inj same
  obtain ⟨whole, length, decimal⟩ := eq_append_of_takeExactly taken
  exact ⟨digits, ⟨length, decimal⟩, whole⟩

theorem readChar?_cons (c : Char) (rest : Text) : readChar? c (c :: rest) = some rest := by
  simp [readChar?]

theorem eq_cons_of_readChar? {c : Char} {text rest : Text}
    (read : readChar? c text = some rest) : text = c :: rest := by
  cases text with
  | nil => cases read
  | cons d text =>
      rw [readChar?] at read
      split at read
      · rename_i same
        rw [same, Option.some.inj read]
      · cases read

/-- Hour and minute as they can be read. -/
def IsClockText (text : Text) : Prop :=
  ∃ hour minute, IsNumeral 2 hour ∧ IsNumeral 2 minute ∧ text = hour ++ ':' :: minute

theorem readTime?_append {hour minute : Text} (isHour : IsNumeral 2 hour)
    (isMinute : IsNumeral 2 minute) (rest : Text) :
    readTime? (hour ++ ':' :: minute ++ rest) =
      some ((hour.digitsValue, minute.digitsValue), rest) := by
  simp only [readTime?, List.append_assoc, List.cons_append, readNumber?_append isHour,
    readNumber?_append isMinute, readChar?_cons, Option.bind_eq_bind, Option.bind_some]

theorem exists_clockText_of_readTime? {text rest : Text} {time : Time}
    (read : readTime? text = some (time, rest)) :
    ∃ clock, IsClockText clock ∧ text = clock ++ rest := by
  simp only [readTime?, Option.bind_eq_bind, Option.bind_eq_some_iff] at read
  obtain ⟨⟨_, afterHour⟩, readHour, afterColon, readColon, ⟨_, behind⟩, readMinute, same⟩ :=
    read
  obtain ⟨hour, isHour, rfl⟩ := exists_numeral_of_readNumber? readHour
  obtain rfl := eq_cons_of_readChar? readColon
  obtain ⟨minute, isMinute, rfl⟩ := exists_numeral_of_readNumber? readMinute
  obtain ⟨-, rfl⟩ := Prod.mk.inj (Option.some.inj same)
  exact ⟨hour ++ ':' :: minute, ⟨hour, minute, isHour, isMinute, rfl⟩, by simp⟩

/-- A time or a span between two times, as it can be read. -/
def IsSpanText (text : Text) : Prop :=
  IsClockText text ∨
    ∃ start finish, IsClockText start ∧ IsClockText finish ∧ text = start ++ '-' :: finish

theorem IsClockText.exists_cons {text : Text} (clock : IsClockText text) :
    ∃ c rest, text = c :: rest ∧ Text.isDecimal c = true := by
  obtain ⟨hour, minute, ⟨length, decimal⟩, -, rfl⟩ := clock
  cases hour with
  | nil => cases length
  | cons c hour => exact ⟨c, _, rfl, decimal c List.mem_cons_self⟩

theorem IsSpanText.exists_cons {text : Text} (span : IsSpanText text) :
    ∃ c rest, text = c :: rest ∧ Text.isDecimal c = true := by
  rcases span with clock | ⟨start, finish, isStart, -, rfl⟩
  · exact clock.exists_cons
  · obtain ⟨c, rest, rfl, decimal⟩ := isStart.exists_cons
    exact ⟨c, _, rfl, decimal⟩

theorem IsClockText.not_closer {text : Text} (clock : IsClockText text) :
    ∀ c ∈ text, isCloser c = false := by
  have notDecimal : Text.isDecimal '>' = false ∧ Text.isDecimal ']' = false := by decide +kernel
  have digit : ∀ c, Text.isDecimal c = true → isCloser c = false := by
    intro c decimal
    rw [isCloser, Bool.or_eq_false_iff, beq_eq_false_iff_ne, beq_eq_false_iff_ne]
    constructor
    · rintro rfl
      rw [notDecimal.1] at decimal
      cases decimal
    · rintro rfl
      rw [notDecimal.2] at decimal
      cases decimal
  obtain ⟨hour, minute, ⟨-, hourDigits⟩, ⟨-, minuteDigits⟩, rfl⟩ := clock
  rw [List.forall_mem_append, List.forall_mem_cons]
  exact ⟨fun c member => digit c (hourDigits c member), rfl,
    fun c member => digit c (minuteDigits c member)⟩

theorem IsSpanText.not_closer {text : Text} (span : IsSpanText text) :
    ∀ c ∈ text, isCloser c = false := by
  rcases span with clock | ⟨start, finish, isStart, isFinish, rfl⟩
  · exact clock.not_closer
  · rw [List.forall_mem_append, List.forall_mem_cons]
    exact ⟨isStart.not_closer, rfl, isFinish.not_closer⟩

/-- What an interval looks like: no closing bracket in it and no blanks around it. -/
structure IsInterval (text : Text) : Prop where
  nonempty : text ≠ []
  inside : ∀ c ∈ text, isCloser c = false
  front : ∀ c ∈ text.head?, Text.isBlank c = false
  back : ∀ c ∈ text.getLast?, Text.isBlank c = false

namespace IsInterval

variable {text : Text}

theorem trimRight_eq (interval : IsInterval text) : text.trimRight = text := by
  rw [Text.trimRight_eq_rdropWhile, List.rdropWhile_eq_self_iff]
  intro nonempty blank
  have solid := interval.back _ (List.getLast?_eq_some_getLast nonempty)
  rw [solid] at blank
  cases blank

theorem not_isAllBlank (interval : IsInterval text) : text.isAllBlank = false := by
  cases text with
  | nil => exact (interval.nonempty rfl).elim
  | cons c text => simp [Text.isAllBlank, interval.front c rfl]

end IsInterval

theorem isInterval_trim {body : Text} (inside : ∀ c ∈ body, isCloser c = false)
    (solid : body.isAllBlank = false) : IsInterval body.trim := by
  have notBlank : ¬∀ c ∈ body, Text.isBlank c = true := by
    rw [← List.all_eq_true]
    simpa [Text.isAllBlank] using solid
  have leftNonempty : body.trimLeft ≠ [] := by
    rw [Text.trimLeft, Ne, List.dropWhile_eq_nil_iff]
    exact notBlank
  obtain ⟨c, rest, left⟩ := List.exists_cons_of_ne_nil leftNonempty
  have frontSolid : Text.isBlank c = false := by
    have front := List.head?_dropWhile_not Text.isBlank body
    rw [← Text.trimLeft, left] at front
    simpa using front
  have nonempty : (c :: rest).rdropWhile Text.isBlank ≠ [] := by
    rw [Ne, List.rdropWhile_eq_nil_iff]
    intro allBlank
    rw [allBlank c List.mem_cons_self] at frontSolid
    cases frontSolid
  rw [Text.trim, left, Text.trimRight_eq_rdropWhile]
  refine ⟨nonempty, ?_, ?_, ?_⟩
  · intro d member
    have inLeft := (List.rdropWhile_prefix Text.isBlank (c :: rest)).subset member
    rw [← left] at inLeft
    exact inside d ((List.dropWhile_sublist _).subset inLeft)
  · intro d isFirst
    obtain ⟨behind, whole⟩ := List.rdropWhile_prefix Text.isBlank (c :: rest)
    obtain ⟨first, more, split⟩ := List.exists_cons_of_ne_nil nonempty
    rw [split] at isFirst whole
    obtain rfl : first = d := Option.some.inj isFirst
    rw [(List.cons.inj whole).1]
    exact frontSolid
  · intro d isLast
    rw [List.getLast?_eq_some_getLast nonempty] at isLast
    obtain rfl := Option.some.inj isLast
    simpa using List.rdropWhile_last_not Text.isBlank (c :: rest) nonempty

/-- Up to the closing bracket everything is the interval. -/
theorem readEnd?_append {body : Text} {closer : Char}
    (inside : ∀ c ∈ body, isCloser c = false) (closes : isCloser closer = true) (more : Text) :
    readEnd? (body ++ closer :: more) =
      if Text.isAllBlank body then some (none, closer)
      else (readBlanks? body).map fun interval => (some (Text.trimRight interval), closer) := by
  have allInside : ∀ c ∈ body, (!isCloser c) = true := by simpa using inside
  simp [readEnd?, List.takeWhile_append_of_pos allInside, List.dropWhile_append_of_pos allInside,
    closes]

/-- The bracket that closes a timestamp is the first one. -/
theorem exists_body_of_readEnd? {text : Text} {interval : Option Text} {closer : Char}
    (read : readEnd? text = some (interval, closer)) :
    ∃ body more, text = body ++ closer :: more ∧ isCloser closer = true ∧
      ∀ c ∈ body, isCloser c = false := by
  cases behind : text.dropWhile fun c => !isCloser c with
  | nil => simp [readEnd?, behind] at read
  | cons c more =>
      have whole := List.takeWhile_append_dropWhile (p := fun c => !isCloser c) (l := text)
      rw [behind] at whole
      have closes : isCloser c = true := by
        have front := List.head?_dropWhile_not (fun c => !isCloser c) text
        rw [behind] at front
        simpa using front
      have inside : ∀ d ∈ text.takeWhile fun c => !isCloser c, isCloser d = false := by
        intro d member
        simpa using List.mem_takeWhile_imp member
      rw [← whole, readEnd?_append inside closes] at read
      have same : c = closer := by
        split at read
        · exact (Prod.mk.inj (Option.some.inj read)).2
        · obtain ⟨_, -, same⟩ := Option.map_eq_some_iff.mp read
          exact (Prod.mk.inj same).2
      exact ⟨_, more, by rw [← same, whole], same ▸ closes, inside⟩

theorem isInterval_of_readEnd? {text i : Text} {closer : Char}
    (read : readEnd? text = some (some i, closer)) : IsInterval i := by
  obtain ⟨body, more, rfl, closes, inside⟩ := exists_body_of_readEnd? read
  rw [readEnd?_append inside closes] at read
  split at read
  · cases read
  · rename_i solid
    obtain ⟨behind, blanks, same⟩ := Option.map_eq_some_iff.mp read
    rw [readBlanks?] at blanks
    split at blanks
    · obtain rfl := Option.some.inj blanks
      obtain ⟨rfl, -⟩ : Text.trimRight body.trimLeft = i ∧ closer = closer := by
        simpa using same
      exact isInterval_trim inside (by simpa using solid)
    · cases blanks

theorem isInterval_of_readTimes? {text i : Text} {d : Details}
    (read : readTimes? text = some d) (isSome : d.interval = some i) : IsInterval i := by
  rw [readTimes?, Option.orElse_eq_some] at read
  rcases read with withTime | ⟨-, withoutTime⟩
  · simp only [Option.bind_eq_bind, Option.bind_eq_some_iff] at withTime
    obtain ⟨⟨_, _, rest⟩, -, ⟨interval, closer⟩, readEnd, same⟩ := withTime
    obtain rfl := Option.some.inj same
    obtain rfl : interval = some i := isSome
    exact isInterval_of_readEnd? readEnd
  · simp only [Option.bind_eq_bind, Option.bind_eq_some_iff] at withoutTime
    obtain ⟨⟨interval, closer⟩, readEnd, same⟩ := withoutTime
    obtain rfl := Option.some.inj same
    obtain rfl : interval = some i := isSome
    exact isInterval_of_readEnd? readEnd

theorem isInterval_of_readParts? {line i : Text} {p : Parts}
    (read : readParts? line = some p) (isSome : p.details.interval = some i) :
    IsInterval i := by
  have bracket : ∃ label text, readBracket? label text = some p := by
    rw [readParts?] at read
    split at read
    · exact ⟨_, _, read⟩
    · exact ⟨_, _, read⟩
  obtain ⟨label, text, read⟩ := bracket
  cases text with
  | nil => cases read
  | cons opener rest =>
      rw [readBracket?] at read
      split at read
      · simp only [Option.bind_eq_bind, Option.bind_eq_some_iff] at read
        obtain ⟨_, -, _, -, _, -, _, -, ⟨_, rest⟩, -, details, readDetails, same⟩ := read
        obtain rfl := Option.some.inj same
        rw [readDetails?, Option.orElse_eq_some] at readDetails
        rcases readDetails with withWeekday | ⟨-, withoutWeekday⟩
        · obtain ⟨_, -, readTimes⟩ := Option.bind_eq_some_iff.mp withWeekday
          exact isInterval_of_readTimes? readTimes isSome
        · exact isInterval_of_readTimes? withoutWeekday isSome
      · cases read

end Timestamp

/-- A day that there is in the years from 1 to 9999. -/
structure Date.IsValid (d : Date) : Prop where
  year : 1 ≤ d.year ∧ d.year ≤ 9999
  month : 1 ≤ d.month ∧ d.month ≤ 12
  day : 1 ≤ d.day ∧ d.day ≤ Date.daysInMonth d.year d.month

theorem Date.of?_eq_ok_iff (year month day : Nat) (d : Date) :
    Date.of? year month day = .ok d ↔ d = ⟨year, month, day⟩ ∧ d.IsValid := by
  constructor
  · intro accepted
    unfold Date.of? at accepted
    split at accepted
    · cases accepted
    · split at accepted
      · cases accepted
      · split at accepted
        · cases accepted
        · rename_i inYear inMonth inDay
          obtain rfl := Except.ok.inj accepted
          refine ⟨rfl, ?_⟩
          simp only [Int.toNat_natCast, Bool.or_eq_true, decide_eq_true_eq, not_or]
            at inYear inMonth inDay ⊢
          exact ⟨by dsimp only; omega, by dsimp only; omega, by dsimp only; omega⟩
  · rintro ⟨rfl, ⟨year, month, day⟩⟩
    dsimp only at year month day
    simp only [Date.of?, Int.toNat_natCast, Bool.or_eq_true, decide_eq_true_eq]
    rw [if_neg (by omega), if_neg (by omega), if_neg (by omega)]

/-- The numbers of a date that is accepted are in range. -/
theorem Date.bounds_of_of? {d : Date} (accepted : Date.of? d.year d.month d.day = .ok d) :
    1 ≤ d.year ∧ d.year ≤ 9999 ∧ d.month ≤ 12 ∧ d.day ≤ 31 := by
  obtain ⟨-, year, month, day⟩ := (Date.of?_eq_ok_iff _ _ _ _).mp accepted
  have short : daysInMonth d.year d.month ≤ 31 := by
    unfold daysInMonth
    split
    · split <;> omega
    · split <;> omega
  omega

/-- A time of day without seconds that passes its own check. -/
def Clock.IsShort (c : Clock) : Prop := Clock.of? c.hour c.minute 0 0 = .ok c

/-- The time of day that an hour and a minute denote. -/
structure Clock.IsAt (time : Nat × Nat) (c : Clock) : Prop where
  hour : time.1 ≤ 23
  minute : time.2 ≤ 59
  clock : c = ⟨time.1, time.2, 0, 0⟩

theorem Clock.of?_eq_ok_iff (time : Nat × Nat) (c : Clock) :
    Clock.of? time.1 time.2 0 0 = .ok c ↔ Clock.IsAt time c := by
  constructor
  · intro accepted
    unfold Clock.of? at accepted
    split at accepted
    · cases accepted
    · split at accepted
      · cases accepted
      · rename_i inHour inMinute
        simp only [Bool.or_eq_true, decide_eq_true_eq, not_or] at inHour inMinute
        exact ⟨by omega, by omega, (Except.ok.inj accepted).symm⟩
  · rintro ⟨hour, minute, rfl⟩
    simp only [Clock.of?, Bool.or_eq_true, decide_eq_true_eq]
    rw [if_neg (by omega), if_neg (by omega), if_neg (by omega), if_neg (by omega)]
    rfl

theorem Clock.IsAt.isShort {time : Nat × Nat} {c : Clock} (isAt : Clock.IsAt time c) :
    c.IsShort := by
  obtain ⟨hour, minute, rfl⟩ := isAt
  exact (Clock.of?_eq_ok_iff time _).mpr ⟨hour, minute, rfl⟩

theorem Clock.IsShort.isAt {c : Clock} (short : c.IsShort) : Clock.IsAt (c.hour, c.minute) c :=
  (Clock.of?_eq_ok_iff (c.hour, c.minute) c).mp short

namespace Timestamp

/-- What holds of every timestamp that has been read. -/
structure IsRead (t : Timestamp) : Prop where
  date : Date.of? t.start.date.year t.start.date.month t.start.date.day = .ok t.start.date
  clock : t.start.clock.IsShort
  finish : ∀ c, t.until? = some c → c.IsShort
  interval : ∀ i, t.interval = some i → IsInterval i

theorem Parts.moments_eq_ok_iff (p : Parts) (start : Moment) (finish : Option Clock) :
    p.moments = .ok (start, finish) ↔
      start.date = ⟨p.year, p.month, p.day⟩ ∧ start.date.IsValid ∧
        Clock.IsAt (p.details.start.getD (0, 0)) start.clock ∧
          Option.Rel Clock.IsAt p.details.finish finish := by
  obtain ⟨date, clock⟩ := start
  constructor
  · intro denoted
    rw [Parts.moments] at denoted
    cases ofDate : Date.of? p.year p.month p.day with
    | error _ => simp [ofDate, bind, Except.bind] at denoted
    | ok d =>
        cases ofStart : Clock.of? (p.details.start.getD (0, 0)).1
            (p.details.start.getD (0, 0)).2 0 0 with
        | error _ => simp [ofDate, ofStart, bind, Except.bind] at denoted
        | ok c =>
            obtain ⟨same, valid⟩ := (Date.of?_eq_ok_iff _ _ _ _).mp ofDate
            have isAt := (Clock.of?_eq_ok_iff _ _).mp ofStart
            simp only [ofDate, ofStart, bind, Except.bind] at denoted
            cases last : p.details.finish with
            | none =>
                simp only [last, Except.ok.injEq, Prod.mk.injEq, Moment.mk.injEq] at denoted
                obtain ⟨⟨rfl, rfl⟩, rfl⟩ := denoted
                exact ⟨same, valid, isAt, .none⟩
            | some time =>
                cases ofFinish : Clock.of? time.1 time.2 0 0 with
                | error _ => simp [last, ofFinish] at denoted
                | ok f =>
                    simp only [last, ofFinish, Except.ok.injEq, Prod.mk.injEq, Moment.mk.injEq]
                      at denoted
                    obtain ⟨⟨rfl, rfl⟩, rfl⟩ := denoted
                    exact ⟨same, valid, isAt, .some ((Clock.of?_eq_ok_iff time f).mp ofFinish)⟩
  · rintro ⟨same, valid, isAt, ends⟩
    have ofDate := (Date.of?_eq_ok_iff p.year p.month p.day date).mpr ⟨same, valid⟩
    have ofStart := (Clock.of?_eq_ok_iff _ _).mpr isAt
    simp only [Parts.moments, ofDate, ofStart, bind, Except.bind]
    generalize p.details.finish = last at ends
    cases ends with
    | none => rfl
    | some isAtToo => simp only [(Clock.of?_eq_ok_iff _ _).mpr isAtToo]

theorem isRead_of_parse {line : Text} {t : Timestamp} (read : parse line = .ok t) :
    t.IsRead := by
  rw [parse] at read
  split at read
  · cases read
  · rename_i p readParts
    split at read
    · cases read
    · split at read
      · cases read
      · split at read
        · cases read
        · rename_i start finish moments
          obtain rfl := Except.ok.inj read
          obtain ⟨-, valid, isAt, ends⟩ := (Parts.moments_eq_ok_iff _ _ _).mp moments
          refine ⟨(Date.of?_eq_ok_iff _ _ _ _).mpr ⟨rfl, valid⟩, isAt.isShort, ?_,
            fun i isSome => isInterval_of_readParts? readParts isSome⟩
          rintro c rfl
          generalize Details.finish _ = last at ends
          cases ends with
          | some isAtToo => exact isAtToo.isShort

end Timestamp

end OutlineSearch
