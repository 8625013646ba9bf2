import OutlineSearch.Proofs.Yaml.Source
import OutlineSearch.Yaml.Scalar

/-!
# What stands between quotes

A relation says which texts the characters between quotes spell: some stand for themselves,
others are written as escapes, spaces count unless they stand beside the end of a line, and
the end of a line is a space unless empty lines follow.  The reader takes whatever spells a
text as this text.
-/

namespace OutlineSearch.Yaml

open Text

/-! ## Escapes -/

theorem toUpper_digitChar : ∀ digit < 16,
    Pattern.hexValue (Nat.digitChar digit).toUpper = digit ∧
      Pattern.isHex (Nat.digitChar digit).toUpper = true := by
  decide

theorem numeralValue_toUpper (n : Nat) :
    Pattern.numeralValue 16 ((Nat.toDigits 16 n).map Char.toUpper) = n := by
  induction n using Nat.strongRecOn with
  | ind n induction =>
      by_cases small : n < 16
      · rw [Nat.toDigits_of_lt_base small]
        simpa [Pattern.numeralValue] using (toUpper_digitChar n small).1
      · have last := (toUpper_digitChar (n % 16) (by omega)).1
        have front := induction (n / 16) (by omega)
        rw [Nat.toDigits_of_base_le (by decide) (by omega), List.map_append,
          Pattern.numeralValue, List.foldl_append, ← Pattern.numeralValue, front]
        simp only [List.map_cons, List.map_nil, List.foldl_cons, List.foldl_nil, last]
        omega

theorem isHex_toUpper (n : Nat) :
    ∀ c ∈ (Nat.toDigits 16 n).map Char.toUpper, Pattern.isHex c = true := by
  induction n using Nat.strongRecOn with
  | ind n induction =>
      intro c member
      by_cases small : n < 16
      · rw [Nat.toDigits_of_lt_base small, List.map_singleton, List.mem_singleton] at member
        rw [member]
        exact (toUpper_digitChar n small).2
      · rw [Nat.toDigits_of_base_le (by decide) (by omega), List.map_append, List.mem_append,
          List.map_singleton, List.mem_singleton] at member
        rcases member with front | rfl
        · exact induction (n / 16) (by omega) c front
        · exact (toUpper_digitChar (n % 16) (by omega)).2

theorem capitalHex_eq (width n : Nat) :
    capitalHex width n = List.replicate (width - (Nat.toDigits 16 n).length) '0' ++
      (Nat.toDigits 16 n).map Char.toUpper := by
  have zero : '0'.toUpper = '0' := by decide
  rw [capitalHex, Text.hex, List.map_append, List.map_replicate, zero]

theorem length_capitalHex {width n : Nat} (positive : 0 < width) (bound : n < 16 ^ width) :
    (capitalHex width n).length = width := by
  have short := (Nat.length_toDigits_le_iff (b := 16) (by decide) positive).mpr bound
  rw [capitalHex_eq, List.length_append, List.length_replicate, List.length_map]
  omega

theorem isHex_capitalHex {width n : Nat} {c : Char} (member : c ∈ capitalHex width n) :
    Pattern.isHex c = true := by
  rw [capitalHex_eq, List.mem_append] at member
  rcases member with zero | digit
  · rw [(List.mem_replicate.mp zero).2]
    decide
  · exact isHex_toUpper n c digit

theorem numeralValue_capitalHex (width n : Nat) :
    Pattern.numeralValue 16 (capitalHex width n) = n := by
  have zeros : ∀ count, (List.replicate count '0').foldl
      (fun n c => 16 * n + Pattern.hexValue c) 0 = 0 := by
    intro count
    induction count with
    | zero => rfl
    | succ count induction => exact induction
  rw [capitalHex_eq, Pattern.numeralValue, List.foldl_append, zeros]
  exact numeralValue_toUpper n

theorem toNat_lt_codes (c : Char) : c.toNat < 0x110000 := by
  have valid : c.toNat < 0xD800 ∨ 0xDFFF < c.toNat ∧ c.toNat < 0x110000 := c.valid
  omega

theorem escaped?_of_escapeLetter? {c letter : Char} (letters : escapeLetter? c = some letter) :
    Source.escaped? letter = some c.toNat ∧ IsInline letter := by
  unfold escapeLetter? at letters
  split at letters <;> cases letters
  all_goals
    rename_i code
    rw [code]
    exact ⟨rfl, by decide⟩

theorem isInline_of_isHex {c : Char} (hex : Pattern.isHex c = true) : IsInline c := by
  simp only [Pattern.isHex, Bool.or_eq_true, Bool.and_eq_true, decide_eq_true_eq, Char.le_def,
    UInt32.le_iff_toNat_le] at hex
  rcases hex with (digit | lower) | upper
  · exact isInline_of_isDigit digit
  · exact ⟨le_trans (by decide) lower.1, le_trans lower.2 (by decide)⟩
  · exact ⟨le_trans (by decide) upper.1, le_trans upper.2 (by decide)⟩

/-- The escape of a character is a letter that stands for it, or the code of the character. -/
theorem exists_code_of_escape? {c : Char} {code : Text} (escape : escape? c = some code) :
    (∃ letter, code = ['\\', letter] ∧ Source.escaped? letter = some c.toNat ∧ IsInline letter) ∨
    ∃ mark width, code = '\\' :: mark :: capitalHex width c.toNat ∧ IsInline mark ∧
      Source.escaped? mark = none ∧ Source.escapeDigits? mark = some width ∧
      0 < width ∧ c.toNat < 16 ^ width := by
  have valid := toNat_lt_codes c
  unfold escape? at escape
  split at escape
  · rename_i letter letters
    rw [Option.some_inj] at escape
    exact .inl ⟨letter, escape.symm, escaped?_of_escapeLetter? letters⟩
  · right
    split at escape
    · cases escape
    · split at escape
      · rw [Option.some_inj] at escape
        exact ⟨'x', 2, escape.symm, by decide, rfl, rfl, by decide,
          by norm_num; omega⟩
      · split at escape
        · rw [Option.some_inj] at escape
          exact ⟨'u', 4, escape.symm, by decide, rfl, rfl, by decide,
            by norm_num; omega⟩
        · rw [Option.some_inj] at escape
          exact ⟨'U', 8, escape.symm, by decide, rfl, rfl, by decide,
            by norm_num; omega⟩

namespace Source

variable {s : Source} {r : Text}

/-- An escape is read as the character that it stands for. -/
theorem takeEscape_escape? {c : Char} {code : Text} (escape : escape? c = some ('\\' :: code))
    (split : s.rest = code ++ r) (limit : Nat) :
    s.takeEscape limit = .ok ([c], s.skip code.length) := by
  rcases exists_code_of_escape? escape with ⟨letter, shape, stands, -⟩ |
    ⟨mark, width, shape, -, other,
    digits, positive, bound⟩
  · obtain rfl : code = [letter] := by simpa using shape
    have first : s.peek = some letter := peek_append_cons split
    rw [takeEscape, first]
    simp only [stands, Char.ofNat_toNat]
    rfl
  · obtain rfl : code = mark :: capitalHex width c.toNat := by simpa using shape
    have first : s.peek = some mark := peek_append_cons split
    have length := length_capitalHex positive bound
    have taken : s.next.rest.take width = capitalHex width c.toNat := by
      have behind : s.next.rest = capitalHex width c.toNat ++ r := rest_next_cons split
      rw [behind]
      exact List.take_left' length
    have hex : (capitalHex width c.toNat).all Pattern.isHex = true :=
      List.all_eq_true.mpr fun _ => isHex_capitalHex
    have valid := toNat_lt_codes c
    have char : charOfCode c.toNat = .ok c := by
      rw [charOfCode, if_neg (by omega), if_neg (by omega), Char.ofNat_toNat]
    rw [takeEscape, first]
    simp only [other, digits, taken, hex, length, numeralValue_capitalHex, char, decide_true,
      Bool.and_self, if_true]
    rw [List.length_cons, length]
    rfl

end Source

/-! ## Spelling -/

/-- The quote that encloses a scalar. -/
def quoteOf (double : Bool) : Char := if double then '"' else '\''

/-- A text that begins with neither a space nor the end of a line. -/
def StartsSolid (t : Text) : Prop := t.head? ≠ some ' ' ∧ t.head? ≠ some '\n'

/-- What the characters between quotes stand for. -/
inductive Spells (double : Bool) : Text → Text → Prop where
  | nil : Spells double [] []
  /-- A character that stands for itself. -/
  | literal {c : Char} {written text : Text} : IsInline c → c ≠ ' ' → c ≠ quoteOf double →
      (double = true → c ≠ '\\') → Spells double written text →
      Spells double (c :: written) (c :: text)
  /-- A quote between single quotes is written twice. -/
  | twice {written text : Text} : double = false → Spells double written text →
      Spells double ('\'' :: '\'' :: written) ('\'' :: text)
  | escape {c : Char} {code written text : Text} : double = true →
      escape? c = some ('\\' :: code) → Spells double written text →
      Spells double ('\\' :: (code ++ written)) (c :: text)
  /-- A backslash keeps a space that would not count. -/
  | escapedSpace {written text : Text} : double = true → Spells double written text →
      Spells double ('\\' :: ' ' :: written) (' ' :: text)
  /-- A backslash at the end of a line makes the end count for nothing. -/
  | joint {indent : Nat} {written text : Text} : double = true → 0 < indent →
      StartsSolid written → Spells double written text →
      Spells double ('\\' :: '\n' :: (List.replicate indent ' ' ++ written)) text
  | spaces {count : Nat} {written text : Text} : 0 < count →
      StartsSolid written → Spells double written text →
      Spells double (List.replicate count ' ' ++ written) (List.replicate count ' ' ++ text)
  /-- The end of a line is a space; empty lines behind it count instead of it. -/
  | lines {empty indent : Nat} {written text : Text} : 0 < indent →
      StartsSolid written → Spells double written text →
      Spells double ('\n' :: (List.replicate empty '\n' ++ (List.replicate indent ' ' ++ written)))
        ((if empty = 0 then [' '] else List.replicate empty '\n') ++ text)

theorem StartsSolid.head? {t : Text} (solid : StartsSolid t) {quote : Char}
    (visible : quote ≠ ' ' ∧ quote ≠ '\n') (r : Text) :
    (t ++ quote :: r).head? ≠ some ' ' ∧ (t ++ quote :: r).head? ≠ some '\n' := by
  cases t with
  | nil => simpa using visible
  | cons c rest => exact solid

theorem quoteOf_visible (double : Bool) : quoteOf double ≠ ' ' ∧ quoteOf double ≠ '\n' := by
  cases double <;> decide

/-! ## Reading -/

namespace Source

section Reading

variable {double : Bool} {s : Source}

/-- From a place inside of quotes, a text is read and the closing quote passed. -/
def ReadsQuoted (double : Bool) (s : Source) (text : Text) (behind : Source) : Prop :=
  ∃ word place, (∀ limit, s.rest.length < limit →
      takeQuotedWord double limit s = .ok (word, place)) ∧
    ((place.isAt (quoteOf double) = true ∧ text = word ∧ behind = place.next) ∨
      place.isAt (quoteOf double) = false ∧ ∃ space after more,
        takeQuotedSpace (place.rest.length + 1) place = .ok (space, after) ∧
        after.rest.length < s.rest.length ∧ text = word ++ space ++ more ∧
        ∀ limit, after.rest.length < limit → takeQuotedRest double limit after = .ok (more, behind))

theorem ReadsQuoted.takeQuotedRest {text : Text} {behind : Source}
    (reads : ReadsQuoted double s text behind) {limit : Nat} (enough : s.rest.length < limit) :
    takeQuotedRest double limit s = .ok (text, behind) := by
  obtain ⟨limit, rfl⟩ := Nat.exists_eq_succ_of_ne_zero (Nat.ne_zero_of_lt enough)
  obtain ⟨word, place, wordRead, ⟨closed, rfl, rfl⟩ |
    ⟨notClosed, space, after, more, spaceRead, fewer,
    rfl, rest⟩⟩ := reads
  · have word := wordRead _ (Nat.lt_succ_self _)
    rw [Source.takeQuotedRest, word]
    change (if place.isAt (quoteOf double) then _ else _) = _
    rw [if_pos closed]
  · have word := wordRead _ (Nat.lt_succ_self _)
    rw [Source.takeQuotedRest, word]
    change (if place.isAt (quoteOf double) then _ else _) = _
    rw [notClosed, if_neg Bool.false_ne_true, spaceRead]
    have restRead := rest limit (by omega)
    dsimp only [bind, Except.bind]
    rw [restRead]

/-- Wherever these characters stand in front of the closing quote, the text is read from them. -/
def ReadsAs (double : Bool) (r written text : Text) : Prop :=
  ∀ s : Source, s.rest = written ++ quoteOf double :: r →
    ReadsQuoted double s text (s.skip (written.length + 1))

/-- The closing quote. -/
theorem readsAs_nil {r : Text} (single : double = false → r.head? ≠ some '\'') :
    ReadsAs double r [] [] := by
  intro s split
  refine ⟨[], s, ?_, .inl ⟨?_, rfl, rfl⟩⟩
  · intro limit enough
    obtain ⟨limit, rfl⟩ := Nat.exists_eq_succ_of_ne_zero (Nat.ne_zero_of_lt enough)
    rw [takeQuotedWord, peek_append_cons split]
    cases double with
    | true => rfl
    | false =>
        have notTwice : s.next.isAt '\'' = false := by
          rw [isAt, peek, rest_next_cons split, beq_eq_false_iff_ne]
          exact single rfl
        simp only [quoteOf, isOrdinary, notTwice]
        rfl
  · rw [isAt_cons split]
    exact beq_self_eq_true _

section ReadsAs

variable {r written text : Text}

/-- Characters that belong to a word, in front of what is read. -/
theorem ReadsAs.word (piece read : Text) (nonempty : piece ≠ [])
    (step : ∀ s : Source, s.rest = piece ++ (written ++ quoteOf double :: r) →
      ∀ limit, 0 < limit → takeQuotedWord double (limit + 1) s = (do
        let (more, place) ← takeQuotedWord double limit (s.skip piece.length)
        .ok (read ++ more, place)))
    (reads : ReadsAs double r written text) :
    ReadsAs double r (piece ++ written) (read ++ text) := by
  intro s split
  rw [List.append_assoc] at split
  have positive := List.length_pos_iff.mpr nonempty
  have behind := rest_skip_append split
  have fewer : (s.skip piece.length).rest.length < s.rest.length := by
    rw [rest_skip, List.length_drop, split, List.length_append]
    omega
  obtain ⟨word, place, wordRead, ending⟩ := reads _ behind
  rw [← skip_add, ← Nat.add_assoc, ← List.length_append] at ending
  refine ⟨read ++ word, place, ?_, ?_⟩
  · intro limit enough
    obtain ⟨limit, rfl⟩ := Nat.exists_eq_succ_of_ne_zero (Nat.ne_zero_of_lt enough)
    rw [step s split limit (by omega), wordRead limit (by omega)]
    rfl
  · rcases ending with ⟨closed, rfl, closing⟩ |
      ⟨notClosed, space, after, more, spaceRead, less, rfl, rest⟩
    · exact .inl ⟨closed, rfl, closing⟩
    · refine .inr ⟨notClosed, space, after, more, spaceRead, by omega, ?_, rest⟩
      simp only [List.append_assoc]

/-- Characters that stand between words, in front of what is read. -/
theorem ReadsAs.space {c : Char} {piece space : Text} (blank : c = ' ' ∨ c = '\n')
    (taken : ∀ s : Source, s.rest = c :: piece ++ (written ++ quoteOf double :: r) →
      takeQuotedSpace (s.rest.length + 1) s = .ok (space, s.skip (c :: piece).length))
    (reads : ReadsAs double r written text) :
    ReadsAs double r (c :: piece ++ written) (space ++ text) := by
  intro s split
  rw [List.append_assoc] at split
  have behind := reads _ (rest_skip_append split)
  rw [← skip_add, ← Nat.add_assoc, ← List.length_append] at behind
  have fewer : (s.skip (c :: piece).length).rest.length < s.rest.length := by
    rw [rest_skip, List.length_drop, split, List.length_append, List.length_cons]
    omega
  refine ⟨[], s, ?_, .inr ⟨?_, space, _, text, taken s split, fewer, rfl, ?_⟩⟩
  · intro limit enough
    obtain ⟨limit, rfl⟩ := Nat.exists_eq_succ_of_ne_zero (Nat.ne_zero_of_lt enough)
    rw [takeQuotedWord, peek_append_cons split]
    rcases blank with rfl | rfl
    · cases double <;> rfl
    · cases double <;> rfl
  · rw [isAt_cons split]
    rcases blank with rfl | rfl
    · cases double <;> rfl
    · cases double <;> rfl
  · intro limit enough
    exact behind.takeQuotedRest enough

end ReadsAs

/-! ### Line breaks -/

/-- The spaces in front of a line do not count. -/
theorem takeQuotedBreaks_spaces {indent : Nat} {r : Text}
    (split : s.rest = List.replicate indent ' ' ++ r) (indented : 0 < indent)
    (solid : r.head? ≠ some ' ' ∧ r.head? ≠ some '\n') (visible : ∀ c ∈ r.head?, IsInline c)
    (limit : Nat) : takeQuotedBreaks (limit + 1) s = .ok ([], s.skip indent) := by
  have first : s.rest.head? = some ' ' := by
    rw [split, List.head?_append_of_ne_nil _ (by simpa using indented.ne'),
      List.head?_replicate, if_neg indented.ne']
  have notSeparator : s.isSeparator = false := by
    apply isSeparator_eq_false <;> rw [first] <;> decide
  have all : ∀ c ∈ List.replicate indent ' ', isWhite c = true := by
    intro c member
    rw [(List.mem_replicate.mp member).2]
    rfl
  have stop : ∀ c ∈ r.head?, isWhite c = false := by
    intro c other
    rw [(visible c other).isWhite_eq, beq_eq_false_iff_ne]
    rintro rfl
    exact solid.1 other
  have dropped : s.dropWhile isWhite = s.skip indent := by
    rw [dropWhile, takeWhile_append split all stop, List.length_replicate]
  have behind : (s.skip indent).peek = r.head? := by
    rw [peek, rest_skip, split, List.drop_left' List.length_replicate]
  rw [takeQuotedBreaks, notSeparator, if_neg Bool.false_ne_true, dropped]
  dsimp only
  rw [behind]
  cases shape : r.head? with
  | none => rfl
  | some c =>
      simp only [(visible c shape).isBreak_eq_false, if_neg Bool.false_ne_true]

theorem takeQuotedBreaks_append {empty indent : Nat} {r : Text}
    (split : s.rest = List.replicate empty '\n' ++ (List.replicate indent ' ' ++ r))
    (indented : 0 < indent) (solid : r.head? ≠ some ' ' ∧ r.head? ≠ some '\n')
    (visible : ∀ c ∈ r.head?, IsInline c) {limit : Nat} (enough : empty < limit) :
    takeQuotedBreaks limit s = .ok (List.replicate empty '\n', s.skip (empty + indent)) := by
  obtain ⟨limit, rfl⟩ := Nat.exists_eq_succ_of_ne_zero (Nat.ne_zero_of_lt enough)
  induction empty generalizing s limit with
  | zero =>
      rw [List.replicate_zero, List.nil_append] at split
      rw [Nat.zero_add, List.replicate_zero]
      exact takeQuotedBreaks_spaces split indented solid visible limit
  | succ empty induction =>
      rw [List.replicate_succ, List.cons_append] at split
      have notSeparator : s.isSeparator = false := by
        apply isSeparator_eq_false <;> rw [split] <;> simp
      have dropped : s.dropWhile isWhite = s := by
        rw [dropWhile, takeWhile_append (t := []) split (by simp) (by simp [isWhite])]
        rfl
      obtain ⟨limit, rfl⟩ := Nat.exists_eq_succ_of_ne_zero (Nat.ne_of_gt (by omega : 0 < limit))
      have more := induction (rest_next_cons split) limit (by omega)
      rw [takeQuotedBreaks, notSeparator, if_neg Bool.false_ne_true, dropped]
      dsimp only
      rw [peek_append_cons split, takeBreak_lineFeed split]
      dsimp only
      rw [more, Nat.add_right_comm, skip]
      rfl

/-- Spaces between words are taken as they are. -/
theorem takeQuotedSpace_spaces {count : Nat} {c : Char} {r : Text}
    (split : s.rest = List.replicate count ' ' ++ c :: r) (visible : IsInline c)
    (notSpace : c ≠ ' ') (limit : Nat) :
    takeQuotedSpace limit s = .ok (List.replicate count ' ', s.skip count) := by
  have all : ∀ d ∈ List.replicate count ' ', isWhite d = true := by
    intro d member
    rw [(List.mem_replicate.mp member).2]
    rfl
  have stop : ∀ d ∈ (c :: r).head?, isWhite d = false := by
    intro d first
    obtain rfl := Option.some_inj.mp first
    rw [visible.isWhite_eq, beq_eq_false_iff_ne]
    exact notSpace
  have place : (s.skip count).rest = c :: r := by
    rw [rest_skip, split, List.drop_left' List.length_replicate]
  rw [takeQuotedSpace, takeWhile_append split all stop, List.length_replicate]
  dsimp only
  rw [peek_append_cons place]
  simp only [visible.isBreak_eq_false, if_neg Bool.false_ne_true]

section Breaks

variable {empty indent limit : Nat} {r : Text} (indented : 0 < indent)
  (solid : r.head? ≠ some ' ' ∧ r.head? ≠ some '\n') (visible : ∀ c ∈ r.head?, IsInline c)

include indented solid visible

/-- The end of a line between words is a space, or stands for the empty lines behind it. -/
theorem takeQuotedSpace_lines
    (split : s.rest = '\n' :: (List.replicate empty '\n' ++ (List.replicate indent ' ' ++ r)))
    (enough : empty < limit) :
    takeQuotedSpace limit s = .ok (if empty = 0 then [' '] else List.replicate empty '\n',
      s.skip (empty + indent + 1)) := by
  have breaks := takeQuotedBreaks_append (rest_next_cons split) indented solid visible enough
  rw [takeQuotedSpace, takeWhile_append (t := []) split (by simp) (by simp [isWhite])]
  dsimp only
  rw [List.length_nil, skip, peek_append_cons split, takeBreak_lineFeed split]
  dsimp only
  rw [breaks]
  cases empty <;> rfl

/-- A line that ends with a backslash is continued by the next one. -/
theorem takeEscape_line (split : s.rest = '\n' :: (List.replicate indent ' ' ++ r))
    (positive : 0 < limit) : s.takeEscape limit = .ok ([], s.skip (indent + 1)) := by
  have inside : s.next.rest = List.replicate 0 '\n' ++ (List.replicate indent ' ' ++ r) :=
    rest_next_cons split
  have breaks := takeQuotedBreaks_append inside indented solid visible positive
  rw [takeEscape, peek_append_cons split]
  simp only [escaped?, escapeDigits?, takeBreak_lineFeed split]
  rw [breaks, Nat.zero_add]
  rfl

end Breaks

theorem takeEscape_space {r : Text} (split : s.rest = ' ' :: r) (limit : Nat) :
    s.takeEscape limit = .ok ([' '], s.skip 1) := by
  rw [takeEscape, peek_append_cons split]
  rfl

end Reading

end Source

theorem isInline_of_mem_escape? {c d : Char} {escape : Text} (escaped : escape? c = some escape)
    (member : d ∈ escape) : IsInline d := by
  have backslash : IsInline '\\' := by decide
  rcases exists_code_of_escape? escaped with ⟨letter, rfl, -, visible⟩ |
    ⟨mark, width, rfl, visible, -⟩
  · simp only [List.mem_cons, List.not_mem_nil, or_false] at member
    rcases member with rfl | rfl
    · exact backslash
    · exact visible
  · rw [List.mem_cons, List.mem_cons] at member
    rcases member with rfl | rfl | digit
    · exact backslash
    · exact visible
    · exact isInline_of_isHex (isHex_capitalHex digit)

/-- Only characters that need no escape stand between quotes. -/
theorem Spells.isSimple {double : Bool} {written text : Text}
    (spells : Spells double written text) :
    ∀ c ∈ written, Style.isSimple c = true := by
  have spaces : ∀ count, ∀ c ∈ List.replicate count ' ', Style.isSimple c = true :=
    fun count => isSimple_of_isInline fun c => isInline_of_mem_spaces
  induction spells with
  | nil => simp
  | literal visible _ _ _ _ induction =>
      rw [List.forall_mem_cons]
      exact ⟨(isSimple_iff _).mpr (.inr visible), induction⟩
  | twice _ _ induction =>
      rw [List.forall_mem_cons, List.forall_mem_cons]
      exact ⟨by decide, by decide, induction⟩
  | escape _ escaped _ induction =>
      rw [← List.cons_append, List.forall_mem_append]
      exact ⟨isSimple_of_isInline fun c => isInline_of_mem_escape? escaped, induction⟩
  | escapedSpace _ _ induction =>
      rw [List.forall_mem_cons, List.forall_mem_cons]
      exact ⟨by decide, by decide, induction⟩
  | joint _ _ _ _ induction =>
      rw [List.forall_mem_cons, List.forall_mem_cons, List.forall_mem_append]
      exact ⟨by decide, by decide, spaces _, induction⟩
  | spaces _ _ _ induction =>
      rw [List.forall_mem_append]
      exact ⟨spaces _, induction⟩
  | lines _ _ _ induction =>
      rw [List.forall_mem_cons, List.forall_mem_append, List.forall_mem_append]
      refine ⟨by decide, ?_, spaces _, induction⟩
      intro c member
      rw [(List.mem_replicate.mp member).2]
      decide

theorem Spells.visible {double : Bool} {written text : Text} (spells : Spells double written text)
    (solid : StartsSolid written) {r : Text} {c : Char}
    (first : c ∈ (written ++ quoteOf double :: r).head?) : IsInline c := by
  have quote : IsInline (quoteOf double) := by cases double <;> decide
  cases spells with
  | nil =>
      obtain rfl : quoteOf double = c := by simpa using first
      exact quote
  | literal visible _ _ _ _ =>
      obtain rfl := Option.some_inj.mp first
      exact visible
  | @spaces count _ _ positive _ _ =>
      have space : (List.replicate count ' ').head? = some ' ' := by
        rw [List.head?_replicate, if_neg positive.ne']
      refine absurd ?_ solid.1
      rw [List.head?_append, space]
      rfl
  | lines _ _ _ => exact absurd rfl solid.2
  | _ =>
      obtain rfl := Option.some_inj.mp first
      decide

namespace Source

section Reading

variable {double : Bool} {s : Source} {r : Text}

theorem takeQuotedWord_literal {c : Char} (split : s.rest = c :: r) (visible : IsInline c)
    (notSpace : c ≠ ' ') (notQuote : c ≠ quoteOf double) (notEscape : double = true → c ≠ '\\')
    (limit : Nat) : takeQuotedWord double (limit + 1) s = (do
      let (more, place) ← takeQuotedWord double limit s.next
      .ok ([c] ++ more, place)) := by
  have notWhite : isWhite c = false := by
    rw [visible.isWhite_eq, beq_eq_false_iff_ne]
    exact notSpace
  rw [takeQuotedWord, peek_append_cons split]
  cases double with
  | true =>
      have notBackslash := notEscape rfl
      have notDouble : c ≠ '"' := notQuote
      by_cases quote : c = '\''
      · subst quote
        rfl
      · simp [isOrdinary, notWhite, visible.isBreak_eq_false, notBackslash, notDouble, quote]
  | false =>
      have notSingle : c ≠ '\'' := notQuote
      by_cases other : c = '"' ∨ c = '\\'
      · rcases other with rfl | rfl <;> rfl
      · rw [not_or] at other
        simp [isOrdinary, notWhite, visible.isBreak_eq_false, notSingle, other.1, other.2]

theorem takeQuotedWord_twice (split : s.rest = '\'' :: '\'' :: r) (limit : Nat) :
    takeQuotedWord false (limit + 1) s = (do
      let (more, place) ← takeQuotedWord false limit (s.skip 2)
      .ok (['\''] ++ more, place)) := by
  have second : s.next.isAt '\'' = true := by
    rw [isAt_cons (rest_next_cons split)]
    rfl
  rw [takeQuotedWord, peek_append_cons split]
  simp [isOrdinary, second]

theorem takeQuotedWord_escape {read : Text} {count : Nat} (split : s.rest = '\\' :: r) {limit : Nat}
    (taken : s.next.takeEscape limit = .ok (read, s.next.skip count)) :
    takeQuotedWord true (limit + 1) s = (do
      let (more, place) ← takeQuotedWord true limit (s.skip (count + 1))
      .ok (read ++ more, place)) := by
  rw [takeQuotedWord, peek_append_cons split]
  have notOrdinary : isOrdinary '\\' = false := by decide
  simp only [notOrdinary, taken, if_neg Bool.false_ne_true]
  rfl

section Pieces

variable {written text : Text} {indent : Nat}

theorem ReadsAs.literal {c : Char} (visible : IsInline c) (notSpace : c ≠ ' ')
    (notQuote : c ≠ quoteOf double) (notEscape : double = true → c ≠ '\\')
    (reads : ReadsAs double r written text) : ReadsAs double r (c :: written) (c :: text) :=
  ReadsAs.word [c] [c] (List.cons_ne_nil _ _) (fun _ split limit _ =>
    takeQuotedWord_literal split visible notSpace notQuote notEscape limit) reads

theorem ReadsAs.twice (reads : ReadsAs false r written text) :
    ReadsAs false r ('\'' :: '\'' :: written) ('\'' :: text) :=
  ReadsAs.word ['\'', '\''] ['\''] (List.cons_ne_nil _ _)
    (fun _ split limit _ => takeQuotedWord_twice split limit) reads

/-- A backslash and what the reader of escapes takes behind it. -/
theorem ReadsAs.escape (code read : Text)
    (taken : ∀ s : Source, s.rest = code ++ (written ++ quoteOf true :: r) →
      ∀ limit, 0 < limit → s.takeEscape limit = .ok (read, s.skip code.length))
    (reads : ReadsAs true r written text) :
    ReadsAs true r ('\\' :: (code ++ written)) (read ++ text) :=
  ReadsAs.word ('\\' :: code) read (List.cons_ne_nil _ _) (fun s split limit positive =>
    takeQuotedWord_escape split (taken s.next (rest_next_cons split) limit positive)) reads

theorem ReadsAs.joint (indented : 0 < indent) (solid : StartsSolid written)
    (spells : Spells true written text) (reads : ReadsAs true r written text) :
    ReadsAs true r ('\\' :: '\n' :: (List.replicate indent ' ' ++ written)) text := by
  refine ReadsAs.escape ('\n' :: List.replicate indent ' ') []
    (fun s split limit positive => ?_) reads
  rw [List.length_cons, List.length_replicate]
  exact takeEscape_line indented (solid.head? (quoteOf_visible true) r)
    (fun c => spells.visible solid) split positive

theorem ReadsAs.spaces {count : Nat} (positive : 0 < count) (solid : StartsSolid written)
    (spells : Spells double written text) (reads : ReadsAs double r written text) :
    ReadsAs double r (List.replicate count ' ' ++ written) (List.replicate count ' ' ++ text) := by
  obtain ⟨count, rfl⟩ := Nat.exists_eq_succ_of_ne_zero positive.ne'
  obtain ⟨c, more, shape⟩ : ∃ c more, written ++ quoteOf double :: r = c :: more :=
    List.exists_cons_of_ne_nil (List.append_ne_nil_of_right_ne_nil _ (List.cons_ne_nil _ _))
  have visible : IsInline c := spells.visible (r := r) solid (by rw [shape]; rfl)
  have notSpace : c ≠ ' ' := by
    rintro rfl
    exact (solid.head? (quoteOf_visible double) r).1 (by rw [shape]; rfl)
  refine ReadsAs.space (.inl rfl) (fun s split => ?_) reads
  rw [← List.replicate_succ, shape] at split
  rw [← List.replicate_succ, List.length_replicate]
  exact takeQuotedSpace_spaces split visible notSpace _

theorem ReadsAs.lines {empty : Nat} (indented : 0 < indent) (solid : StartsSolid written)
    (spells : Spells double written text) (reads : ReadsAs double r written text) :
    ReadsAs double r
      ('\n' :: (List.replicate empty '\n' ++ (List.replicate indent ' ' ++ written)))
      ((if empty = 0 then [' '] else List.replicate empty '\n') ++ text) := by
  rw [← List.append_assoc]
  refine ReadsAs.space (.inr rfl) (fun s split => ?_) reads
  rw [List.cons_append, List.append_assoc] at split
  have enough : empty < s.rest.length + 1 := by
    simp [split]
    omega
  rw [List.length_cons, List.length_append, List.length_replicate, List.length_replicate]
  exact takeQuotedSpace_lines indented (solid.head? (quoteOf_visible double) r)
    (fun c => spells.visible solid) split enough

end Pieces

/-- What spells a text is read as this text. -/
theorem readsAs_of_spells {written text : Text} (spells : Spells double written text)
    (single : double = false → r.head? ≠ some '\'') : ReadsAs double r written text := by
  induction spells with
  | nil => exact readsAs_nil single
  | literal visible notSpace notQuote notEscape _ reads =>
      exact reads.literal visible notSpace notQuote notEscape
  | twice isSingle _ reads =>
      subst isSingle
      exact reads.twice
  | escape isDouble escape _ reads =>
      subst isDouble
      exact ReadsAs.escape _ [_]
        (fun s split limit _ => takeEscape_escape? escape split limit) reads
  | escapedSpace isDouble _ reads =>
      subst isDouble
      exact ReadsAs.escape [' '] [' ']
        (fun s split limit _ => takeEscape_space split limit) reads
  | joint isDouble indented solid spells reads =>
      subst isDouble
      exact reads.joint indented solid spells
  | spaces positive solid spells reads => exact reads.spaces positive solid spells
  | lines indented solid spells reads => exact reads.lines indented solid spells

/-- A quoted scalar is read as the text that is spelled between its quotes. -/
theorem takeQuoted_of_spells {written text : Text} (spells : Spells double written text)
    (split : s.rest = quoteOf double :: (written ++ quoteOf double :: r))
    (single : double = false → r.head? ≠ some '\'') :
    s.takeQuoted double = .ok (text, s.skip (written.length + 2)) := by
  have inside := readsAs_of_spells spells single s.next (rest_next_cons split)
  refine inside.takeQuotedRest ?_
  rw [rest_next, List.length_tail]
  omega

end Reading

end Source

end OutlineSearch.Yaml
