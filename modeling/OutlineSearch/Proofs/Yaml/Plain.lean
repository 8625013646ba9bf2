import Mathlib.Data.List.Induction
import OutlineSearch.Proofs.Judgement
import OutlineSearch.Proofs.Yaml.Spelling

/-!
# Plain scalars

A plain scalar is words with spaces between them; a single space may have become the end of a
line, with the next line indented.  No word is taken for a comment or for the end of a key.
The reader takes the words up to a line that is indented less, and finds the text that was
written.
-/

namespace OutlineSearch.Yaml

/-- A word of a plain scalar. -/
structure IsPlainWord (word : Text) : Prop where
  nonempty : word ≠ []
  visible : ∀ c ∈ word, IsInline c ∧ c ≠ ' '
  notComment : word.head? ≠ some '#'
  notKey : word.getLast? ≠ some ':'

/-- What the words of a plain scalar stand for. -/
inductive Flows (least : Nat) : Text → Text → Prop where
  | word {word : Text} : IsPlainWord word → Flows least word word
  | spaces {word : Text} {more : Nat} {written text : Text} : IsPlainWord word →
      Flows least written text →
      Flows least (word ++ (List.replicate (more + 1) ' ' ++ written))
        (word ++ (List.replicate (more + 1) ' ' ++ text))
  /-- The end of a line is a space. -/
  | line {word : Text} {indent : Nat} {written text : Text} : IsPlainWord word →
      least ≤ indent → 0 < indent → Flows least written text →
      Flows least (word ++ ('\n' :: (List.replicate indent ' ' ++ written)))
        (word ++ (' ' :: text))

theorem IsPlainWord.isWord {word : Text} (plain : IsPlainWord word) : IsWord word :=
  ⟨plain.nonempty, fun c member =>
    ⟨(plain.visible c member).2, (plain.visible c member).1.ne_of_toNat (by decide)⟩⟩

section Shape

variable {least : Nat} {written text : Text}

theorem Flows.exists_word (flows : Flows least written text) :
    ∃ word more moreText, IsPlainWord word ∧ written = word ++ more ∧ text = word ++ moreText ∧
      (more = [] ∧ moreText = [] ∨
        (more.head? = some ' ' ∨ more.head? = some '\n') ∧ moreText.head? = some ' ') := by
  cases flows with
  | word isWord => exact ⟨_, [], [], isWord, by simp, by simp, .inl ⟨rfl, rfl⟩⟩
  | spaces isWord flows => exact ⟨_, _, _, isWord, rfl, rfl, .inr ⟨.inl rfl, rfl⟩⟩
  | line isWord _ _ flows => exact ⟨_, _, _, isWord, rfl, rfl, .inr ⟨.inr rfl, rfl⟩⟩

theorem Flows.text_ne_nil (flows : Flows least written text) : text ≠ [] := by
  obtain ⟨word, more, moreText, isWord, -, rfl, -⟩ := flows.exists_word
  exact List.append_ne_nil_of_left_ne_nil isWord.nonempty moreText

theorem Flows.written_ne_nil (flows : Flows least written text) : written ≠ [] := by
  obtain ⟨word, more, moreText, isWord, rfl, -⟩ := flows.exists_word
  exact List.append_ne_nil_of_left_ne_nil isWord.nonempty more

theorem Flows.exists_first (flows : Flows least written text) (r : Text) :
    ∃ c rest, written ++ r = c :: rest ∧ (IsInline c ∧ c ≠ ' ') ∧ c ≠ '#' := by
  obtain ⟨word, more, moreText, isWord, rfl, -⟩ := flows.exists_word
  obtain ⟨c, rest, rfl⟩ := List.exists_cons_of_ne_nil isWord.nonempty
  refine ⟨c, rest ++ more ++ r, rfl, isWord.visible c List.mem_cons_self, ?_⟩
  simpa using isWord.notComment

theorem Flows.isSimple (flows : Flows least written text) :
    ∀ c ∈ written, Style.isSimple c = true := by
  have ofWord : ∀ {word : Text}, IsPlainWord word → ∀ c ∈ word, Style.isSimple c = true :=
    fun isWord => isSimple_of_isInline fun c member => (isWord.visible c member).1
  have spaces : ∀ count, ∀ c ∈ List.replicate count ' ', Style.isSimple c = true :=
    fun count => isSimple_of_isInline fun c => isInline_of_mem_spaces
  induction flows with
  | word isWord => exact ofWord isWord
  | spaces isWord _ induction =>
      rw [List.forall_mem_append, List.forall_mem_append]
      exact ⟨ofWord isWord, spaces _, induction⟩
  | line isWord _ _ _ induction =>
      rw [List.forall_mem_append, List.forall_mem_cons, List.forall_mem_append]
      exact ⟨ofWord isWord, by decide, spaces _, induction⟩

end Shape

/-! ## Reading -/

namespace Source

theorem takePlainWord_of_endsWord {r : Text} (ends : endsWord r.head? = true) :
    takePlainWord false r = [] := by
  cases r with
  | nil => rfl
  | cons c rest =>
      rw [List.head?_cons] at ends
      rw [takePlainWord, ends]
      rfl

theorem takePlainWord_append {word r : Text} (visible : ∀ c ∈ word, IsInline c ∧ c ≠ ' ')
    (notKey : word.getLast? ≠ some ':') (ends : takePlainWord false r = []) :
    takePlainWord false (word ++ r) = word := by
  induction word with
  | nil => exact ends
  | cons c rest induction =>
      rw [List.forall_mem_cons] at visible
      have solid : endsWord (some c) = false := by
        rw [visible.1.1.endsWord_eq, beq_eq_false_iff_ne]
        exact visible.1.2
      rw [List.cons_append, takePlainWord, solid]
      cases rest with
      | nil =>
          have notColon : c ≠ ':' := by simpa using notKey
          simp [notColon, ends]
      | cons d rest =>
          have next : endsWord (some d) = false := by
            have visible := visible.2 d List.mem_cons_self
            rw [visible.1.endsWord_eq, beq_eq_false_iff_ne]
            exact visible.2
          rw [List.getLast?_cons_cons] at notKey
          have more := induction visible.2 notKey
          simp only [List.cons_append] at more ⊢
          simp [next, more]

variable {s : Source} {least : Nat}

/-- Behind a word a plain scalar ends, and the reader goes on behind the end of the line. -/
def EndsPlain (least : Nat) (s after : Source) : Prop :=
  ∃ space, s.takePlainSpace = (⟨space, true⟩, after) ∧
    (space = [] ∨ after.isAt '#' = true ∨ after.column < least)

theorem takePlainSpace_spaces {more : Nat} {c : Char} {r : Text}
    (split : s.rest = List.replicate (more + 1) ' ' ++ c :: r) (visible : IsInline c ∧ c ≠ ' ') :
    s.takePlainSpace = (⟨List.replicate (more + 1) ' ', false⟩, s.skip (more + 1)) := by
  have all : ∀ d ∈ List.replicate (more + 1) ' ', (d == ' ') = true :=
    fun d member => beq_iff_eq.mpr (List.mem_replicate.mp member).2
  have stop : ∀ d ∈ (c :: r).head?, (d == ' ') = false := by simpa using visible.2
  have behind : (s.skip (more + 1)).peek = some c := by
    rw [peek, rest_skip, split, List.drop_left' List.length_replicate, List.head?_cons]
  rw [takePlainSpace, takeWhile_append split all stop, List.length_replicate]
  dsimp only
  rw [behind]
  simp only [visible.1.isBreak_eq_false, if_neg Bool.false_ne_true]

theorem takePlainBreaks_spaces {count : Nat} {r : Text}
    (split : s.rest = List.replicate count ' ' ++ r) (solid : ∀ c ∈ r.head?, IsInline c ∧ c ≠ ' ')
    {limit : Nat} (enough : count < limit) :
    takePlainBreaks limit s = (some [], s.skip count) := by
  obtain ⟨limit, rfl⟩ := Nat.exists_eq_succ_of_ne_zero (Nat.ne_zero_of_lt enough)
  induction count generalizing s limit with
  | zero =>
      rw [List.replicate_zero, List.nil_append] at split
      rw [takePlainBreaks, peek, split]
      cases shape : r.head? with
      | none => rfl
      | some c =>
          obtain ⟨visible, notSpace⟩ := solid c shape
          simp [notSpace, visible.isBreak_eq_false, skip]
  | succ count induction =>
      obtain ⟨limit, rfl⟩ := Nat.exists_eq_succ_of_ne_zero (Nat.ne_of_gt (by omega : 0 < limit))
      have more := induction (rest_next_cons split) limit (by omega)
      rw [takePlainBreaks, peek_append_cons split]
      exact more

theorem takePlainSpace_line {indent : Nat} {r : Text}
    (split : s.rest = '\n' :: (List.replicate indent ' ' ++ r))
    (notSeparator : s.next.isSeparator = false) (solid : ∀ c ∈ r.head?, IsInline c ∧ c ≠ ' ') :
    s.takePlainSpace = (⟨[' '], true⟩, s.skip (indent + 1)) := by
  have behind := rest_next_cons split
  have enough : indent < s.next.rest.length + 1 := by
    rw [behind, List.length_append, List.length_replicate]
    omega
  have breaks := takePlainBreaks_spaces behind solid enough
  rw [takePlainSpace, takeWhile_append (t := []) split (by simp) (by simp)]
  dsimp only
  rw [List.length_nil, skip, peek_append_cons split, takeBreak_lineFeed split]
  dsimp only
  rw [notSeparator, breaks]
  rfl

theorem isSeparator_of_spaces {indent : Nat} {r : Text}
    (split : s.rest = List.replicate indent ' ' ++ r) (indented : 0 < indent) :
    s.isSeparator = false := by
  obtain ⟨more, rfl⟩ := Nat.exists_eq_succ_of_ne_zero indented.ne'
  apply isSeparator_eq_false <;> rw [split, List.replicate_succ] <;> simp

/-- The first step in a plain scalar. -/
theorem takePlainFrom_word {word r : Text} (isWord : IsPlainWord word) (split : s.rest = word ++ r)
    (wordEnds : takePlainWord false r = []) {space : PlainSpace} {after : Source}
    (taken : (s.skip word.length).takePlainSpace = (space, after)) (limit : Nat) :
    takePlainFrom false least (limit + 1) s =
      if space.text.isEmpty || after.isAt '#' || decide (after.column < least) then
        (word, space.brokeLine, after)
      else
        let (more, brokeLine, place) := takePlainFrom false least limit after
        if more.isEmpty then (word, space.brokeLine, place)
        else (word ++ space.text ++ more, brokeLine, place) := by
  have notComment : s.isAt '#' = false := by
    obtain ⟨c, rest, rfl⟩ := List.exists_cons_of_ne_nil isWord.nonempty
    rw [isAt_cons split, beq_eq_false_iff_ne]
    simpa using isWord.notComment
  have wordTaken : takePlainWord false s.rest = word := by
    rw [split, takePlainWord_append isWord.visible isWord.notKey wordEnds]
  have nonempty : word.isEmpty = false := List.isEmpty_eq_false_iff.mpr isWord.nonempty
  rw [takePlainFrom, notComment, if_neg Bool.false_ne_true]
  dsimp only
  rw [wordTaken, nonempty, if_neg Bool.false_ne_true, taken, Bool.not_false, Bool.true_and]

/-- Wherever these characters stand, deep enough, a plain scalar is read from them. -/
def ReadsPlain (least : Nat) (r : Text) (after : Source) (written text : Text) : Prop :=
  ∀ (s : Source) (limit : Nat), s.rest = written ++ r → least ≤ s.column →
    EndsPlain least (s.skip written.length) after → s.rest.length < limit →
    takePlainFrom false least limit s = (text, true, after)

section ReadsPlain

variable {word written text r : Text} {after : Source}

/-- The last word. -/
theorem readsPlain_word (isWord : IsPlainWord word) (wordEnds : takePlainWord false r = []) :
    ReadsPlain least r after word word := by
  intro s limit split _ ⟨space, taken, last⟩ enough
  obtain ⟨limit, rfl⟩ := Nat.exists_eq_succ_of_ne_zero (Nat.ne_zero_of_lt enough)
  have stops : (space.isEmpty || after.isAt '#' || decide (after.column < least)) = true := by
    rw [Bool.or_eq_true, Bool.or_eq_true, List.isEmpty_iff, decide_eq_true_eq, or_assoc]
    exact last
  rw [takePlainFrom_word isWord split wordEnds taken, if_pos stops]

/-- A word in front of others: what stands between them is read as `joint`, and the next word
is deep enough. -/
theorem ReadsPlain.more (between joint : Text) (broken : Bool) (isWord : IsPlainWord word)
    (wordEnds : takePlainWord false (between ++ (written ++ r)) = [])
    (flows : Flows least written text) (nonempty : joint ≠ [])
    (step : ∀ s : Source, least ≤ s.column → s.rest = between ++ (written ++ r) →
      s.takePlainSpace = (⟨joint, broken⟩, s.skip between.length) ∧
        least ≤ (s.skip between.length).column)
    (reads : ReadsPlain least r after written text) :
    ReadsPlain least r after (word ++ (between ++ written)) (word ++ (joint ++ text)) := by
  intro s limit split column ends enough
  obtain ⟨limit, rfl⟩ := Nat.exists_eq_succ_of_ne_zero (Nat.ne_zero_of_lt enough)
  rw [List.append_assoc, List.append_assoc] at split
  have place := skip_of_isInline split fun c member => (isWord.visible c member).1
  have behindWord := rest_skip_append split
  obtain ⟨space, deep⟩ :=
    step (s.skip word.length) (by rw [place]; exact Nat.le_add_right_of_le column) behindWord
  have behind := rest_skip_append behindWord
  have fewer : ((s.skip word.length).skip between.length).rest.length < limit := by
    have someLength := List.length_pos_iff.mpr isWord.nonempty
    rw [split, List.length_append, List.length_append] at enough
    rw [behind]
    omega
  rw [List.length_append, List.length_append, ← Nat.add_assoc, skip_add, skip_add] at ends
  have someSpace : joint.isEmpty = false := List.isEmpty_eq_false_iff.mpr nonempty
  have someText : text.isEmpty = false := List.isEmpty_eq_false_iff.mpr flows.text_ne_nil
  have notComment : ((s.skip word.length).skip between.length).isAt '#' = false := by
    obtain ⟨c, tail, first, -, other⟩ := flows.exists_first r
    rw [isAt_cons (behind.trans first), beq_eq_false_iff_ne]
    exact other
  rw [takePlainFrom_word isWord split wordEnds space, someSpace, notComment,
    decide_eq_false (Nat.not_lt.mpr deep), reads _ limit behind deep ends fewer]
  simp only [someText, Bool.or_self, if_neg Bool.false_ne_true, List.append_assoc]

theorem ReadsPlain.spaces {more : Nat} (isWord : IsPlainWord word)
    (flows : Flows least written text) (reads : ReadsPlain least r after written text) :
    ReadsPlain least r after (word ++ (List.replicate (more + 1) ' ' ++ written))
      (word ++ (List.replicate (more + 1) ' ' ++ text)) := by
  refine ReadsPlain.more _ (List.replicate (more + 1) ' ') false isWord rfl flows (by simp)
    (fun s column split => ?_) reads
  obtain ⟨c, rest, first, visible, -⟩ := flows.exists_first r
  have behind := skip_of_isInline split fun c => isInline_of_mem_spaces
  refine ⟨?_, ?_⟩
  · rw [takePlainSpace_spaces (first ▸ split) visible, List.length_replicate]
  · rw [behind]
    exact Nat.le_add_right_of_le column

theorem ReadsPlain.line {indent : Nat} (isWord : IsPlainWord word) (deep : least ≤ indent)
    (indented : 0 < indent) (flows : Flows least written text)
    (reads : ReadsPlain least r after written text) :
    ReadsPlain least r after (word ++ ('\n' :: (List.replicate indent ' ' ++ written)))
      (word ++ (' ' :: text)) := by
  refine ReadsPlain.more ('\n' :: List.replicate indent ' ') [' '] true isWord rfl flows (by simp)
    (fun s _ split => ?_) reads
  have behind := skip_lineFeed split
  have solid : ∀ c ∈ (written ++ r).head?, IsInline c ∧ c ≠ ' ' := by
    obtain ⟨c, rest, first, visible, -⟩ := flows.exists_first r
    rw [first]
    intro d isFirst
    rwa [← Option.some_inj.mp isFirst]
  rw [List.length_cons, List.length_replicate]
  refine ⟨takePlainSpace_line split
    (isSeparator_of_spaces (rest_next_cons split) indented) solid, ?_⟩
  rw [behind]
  exact deep

/-- A plain scalar is read as the text that its words stand for. -/
theorem readsPlain_of_flows (flows : Flows least written text)
    (wordEnds : takePlainWord false r = []) : ReadsPlain least r after written text := by
  induction flows with
  | word isWord => exact readsPlain_word isWord wordEnds
  | spaces isWord flows reads => exact reads.spaces isWord flows
  | line isWord deep indented flows reads => exact reads.line isWord deep indented flows

end ReadsPlain

end Source

/-! ## Writing -/

open Style (holdsMark isSpacing)

theorem holdsMark_cons {before c : Char} {rest : Text}
    (unmarked : holdsMark before (c :: rest) = false) :
    (c = ':' → isSpacing rest.head? = false) ∧ (c = '#' → isSpacing (some before) = false) ∧
      holdsMark c rest = false := by
  rw [holdsMark, Bool.or_eq_false_iff, Bool.or_eq_false_iff] at unmarked
  obtain ⟨⟨key, comment⟩, rest⟩ := unmarked
  refine ⟨?_, ?_, rest⟩
  · rintro rfl
    simpa using key
  · rintro rfl
    simpa using comment

/-- A text without marks has none in its words. -/
theorem holdsMark_append {before : Char} {word r : Text} (nonempty : word ≠ [])
    (unmarked : holdsMark before (word ++ r) = false) (ends : isSpacing r.head? = true) :
    word.getLast? ≠ some ':' ∧ ∃ last, holdsMark last r = false := by
  induction word generalizing before with
  | nil => exact (nonempty rfl).elim
  | cons c rest induction =>
      obtain ⟨key, -, more⟩ := holdsMark_cons unmarked
      cases rest with
      | nil =>
          refine ⟨?_, c, more⟩
          intro isKey
          rw [List.getLast?_singleton, Option.some_inj] at isKey
          have notSpacing : isSpacing r.head? = false := key isKey
          rw [ends] at notSpacing
          cases notSpacing
      | cons d rest =>
          rw [List.getLast?_cons_cons]
          exact induction (List.cons_ne_nil d rest) more

theorem holdsMark_spaces {before : Char} {more : Nat} {r : Text}
    (unmarked : holdsMark before (List.replicate (more + 1) ' ' ++ r) = false) :
    holdsMark ' ' r = false := by
  induction more generalizing before with
  | zero => exact (holdsMark_cons unmarked).2.2
  | succ more induction => exact induction (holdsMark_cons unmarked).2.2

theorem isPlainWord_of_unmarked {before : Char} {word r : Text} (isWord : IsWord word)
    (visible : ∀ c ∈ word, IsInline c) (notComment : word.head? ≠ some '#')
    (unmarked : holdsMark before (word ++ r) = false) (ends : isSpacing r.head? = true) :
    IsPlainWord word :=
  ⟨isWord.nonempty, fun c member => ⟨visible c member, (isWord.solid c member).1⟩, notComment,
    (holdsMark_append isWord.nonempty unmarked ends).1⟩

/-- No comment begins behind a space. -/
theorem head?_ne_comment_of_unmarked {r : Text} (unmarked : holdsMark ' ' r = false) :
    r.head? ≠ some '#' := by
  intro comment
  obtain ⟨more, rfl⟩ := List.head?_eq_some_iff.mp comment
  exact absurd ((holdsMark_cons unmarked).2.1 rfl) (by decide)

/-- The runs of a plain scalar: words, with spaces between every two of them. -/
inductive PlainRuns : List Text → Prop where
  | word {word : Text} : IsPlainWord word → PlainRuns [word]
  | spaces {word : Text} {runs : List Text} (more : Nat) : IsPlainWord word → PlainRuns runs →
      PlainRuns (word :: List.replicate (more + 1) ' ' :: runs)

/-- The runs of a text that has no marks and does not end with a space. -/
theorem plainRuns_of_unmarked {runs : List Text} (isRun : ∀ run ∈ runs, IsRun run)
    (chain : List.IsChain Alternate runs) (nonempty : runs ≠ [])
    (first : ∀ run ∈ runs.head?, IsWord run) (visible : ∀ c ∈ runs.flatten, IsInline c)
    (last : runs.flatten.getLast? ≠ some ' ') (notComment : runs.flatten.head? ≠ some '#')
    {before : Char} (unmarked : holdsMark before runs.flatten = false) : PlainRuns runs := by
  induction runs using List.twoStepInduction generalizing before with
  | nil => exact (nonempty rfl).elim
  | singleton word =>
      rw [List.flatten_singleton] at visible notComment unmarked
      rw [← List.append_nil word] at unmarked
      exact .word (isPlainWord_of_unmarked (first word rfl) visible notComment unmarked rfl)
  | cons_cons word between rest induction _ =>
      have isWord := first word rfl
      rw [List.forall_mem_cons, List.forall_mem_cons] at isRun
      rw [List.isChain_cons_cons, List.isChain_cons] at chain
      obtain ⟨alternate, nextWord, chainRest⟩ := chain
      rw [List.flatten_cons, List.flatten_cons] at visible last notComment unmarked
      rw [List.forall_mem_append, List.forall_mem_append] at visible
      obtain ⟨more, rfl⟩ := isRun.2.1.exists_spaces (alternate.mp isWord) fun feed =>
        (visible.2.1 '\n' feed).ne_of_toNat (d := '\n') (by decide) rfl
      have words : ∀ run ∈ rest.head?, IsWord run :=
        fun run isNext => (nextWord run isNext).word (not_isWord_spaces more)
      have someRest : rest ≠ [] := by
        rintro rfl
        rw [List.replicate_succ'] at last
        simp [List.getLast?_append] at last
      have someText : rest.flatten ≠ [] := by
        obtain ⟨next, runs, rfl⟩ := List.exists_cons_of_ne_nil someRest
        rw [List.flatten_cons]
        exact List.append_ne_nil_of_left_ne_nil (words next rfl).nonempty _
      rw [List.head?_append_of_ne_nil _ isWord.nonempty] at notComment
      rw [List.getLast?_append_of_ne_nil _ (by simp), List.getLast?_append_of_ne_nil _ someText]
        at last
      obtain ⟨-, behind, unmarkedBehind⟩ := holdsMark_append isWord.nonempty unmarked rfl
      have unmarkedRest := holdsMark_spaces unmarkedBehind
      exact .spaces more
        (isPlainWord_of_unmarked isWord visible.1 notComment unmarked rfl)
        (induction isRun.2.2 chainRest someRest words visible.2.2 last
          (head?_ne_comment_of_unmarked unmarkedRest) unmarkedRest)

/-- What is written for the runs of a plain scalar. -/
theorem exists_flows_writeRuns (mayBreak : Bool) {indent least : Nat} (deep : least ≤ indent)
    (indented : 0 < indent) {runs : List Text} (plain : PlainRuns runs) (isFirst : Bool)
    (w : Written) :
    ∃ written, (writeRuns mayBreak indent isFirst runs w).text = w.text ++ written ∧
      Flows least written runs.flatten := by
  induction plain generalizing isFirst w with
  | @word word plain =>
      refine ⟨word, ?_, ?_⟩
      · rw [writeRuns_word _ _ _ _ _ plain.isWord]
        rfl
      · rw [List.flatten_singleton]
        exact .word plain
  | @spaces word runs more plain _ following =>
      rw [writeRuns_word _ _ _ _ _ plain.isWord, List.flatten_cons, List.flatten_cons]
      rcases writeRuns_spaces mayBreak false indent runs (w.add word) more with kept |
        ⟨rfl, -, -, broken⟩
      · obtain ⟨written, text, flows⟩ :=
          following false ((w.add word).add (List.replicate (more + 1) ' '))
        refine ⟨word ++ (List.replicate (more + 1) ' ' ++ written), ?_, .spaces plain flows⟩
        rw [kept, text]
        simp only [Written.add, List.append_assoc]
      · obtain ⟨written, text, flows⟩ := following false ((w.add word).breakLine indent)
        refine ⟨word ++ ('\n' :: (List.replicate indent ' ' ++ written)), ?_,
          .line plain deep indented flows⟩
        rw [broken, text]
        simp only [Written.add, Written.breakLine, List.append_assoc, List.cons_append]

theorem hasInfix_eq_false {needle t : Text} {c : Char} (inNeedle : c ∈ needle) (absent : c ∉ t) :
    Text.hasInfix needle t = false := by
  rw [Bool.eq_false_iff, Ne, Text.hasInfix_iff]
  exact fun isInfix => absent (isInfix.subset inNeedle)

/-- A text that does not begin with a mark has no marks if it has none behind its first
character. -/
theorem holdsMark_of_not_startsMarked {c : Char} {rest : Text}
    (notMarked : Style.startsMarked (c :: rest) = false) (unmarked : holdsMark c rest = false) :
    c ≠ '#' ∧ holdsMark 'a' (c :: rest) = false := by
  rw [Style.startsMarked, Bool.or_eq_false_iff, Bool.or_eq_false_iff, Bool.or_eq_false_iff]
    at notMarked
  obtain ⟨⟨⟨leading, sign⟩, -⟩, -⟩ := notMarked
  have notComment : c ≠ '#' := by
    rintro rfl
    exact absurd leading (by decide)
  refine ⟨notComment, ?_⟩
  have key : (c == ':' && isSpacing rest.head?) = false := by
    by_cases colon : c = ':'
    · subst colon
      exact sign
    · simp [colon]
  rw [holdsMark, key, unmarked]
  simp [notComment]

/-- A text that is written without quotes. -/
structure StandsPlain (t : Text) : Prop where
  nonempty : t ≠ []
  visible : ∀ c ∈ t, IsInline c
  first : t.head? ≠ some ' '
  last : t.getLast? ≠ some ' '
  notComment : t.head? ≠ some '#'
  notMarked : Style.startsMarked t = false
  unmarked : holdsMark 'a' t = false
  isString : Tag.ofPlain t = .str

theorem standsPlain_of_ofText {isKey : Bool} {t : Text} (plain : Style.ofText isKey t = .plain) :
    StandsPlain t := by
  have allowed : Style.allowsPlain t = true := by
    unfold Style.ofText at plain
    split at plain
    · assumption
    · split at plain <;> cases plain
  simp only [Style.allowsPlain, Style.needsQuotes, Bool.and_eq_true, Bool.not_eq_true',
    Bool.or_eq_false_iff, beq_iff_eq, List.all_eq_true] at allowed
  obtain ⟨⟨⟨⟨isString, simple⟩, noFeed⟩, noOuter⟩, notMarked, unmarked⟩ := allowed
  obtain ⟨c, rest, rfl⟩ : ∃ c rest, t = c :: rest := by
    cases t with
    | nil => cases unmarked
    | cons c rest => exact ⟨c, rest, rfl⟩
  have absent : '\n' ∉ c :: rest := by
    simpa only [List.contains_eq_mem, decide_eq_false_iff_not] using noFeed
  have visible : ∀ d ∈ c :: rest, IsInline d := by
    intro d member
    refine ((isSimple_iff d).mp (simple d member)).resolve_left ?_
    rintro rfl
    exact absent member
  obtain ⟨notComment, unmarkedWhole⟩ := holdsMark_of_not_startsMarked notMarked unmarked
  rw [Style.hasOuterSpace, Bool.or_eq_false_iff] at noOuter
  have notSpace : c ≠ ' ' := by
    rintro rfl
    exact absurd noOuter.1 (by simp)
  have notLast : (c :: rest).getLast? ≠ some ' ' := by
    intro last
    rw [last] at noOuter
    exact absurd noOuter.2 (by decide)
  exact ⟨List.cons_ne_nil c rest, visible, by simpa using notSpace, notLast,
    by simpa using notComment, notMarked, unmarkedWhole, isString⟩

theorem StandsPlain.plainRuns {t : Text} (plain : StandsPlain t) : PlainRuns (runsOf t) := by
  have noFeed : '\n' ∉ t := fun member =>
    (plain.visible '\n' member).ne_of_toNat (d := '\n') (by decide) rfl
  obtain ⟨c, rest, rfl⟩ := List.exists_cons_of_ne_nil plain.nonempty
  obtain ⟨run, runs, shape⟩ := exists_runsOf_cons c rest
  have isRun : IsRun (c :: run) :=
    isRun_of_mem_runsOf (t := c :: rest) (by rw [shape]; exact List.mem_cons_self)
  have isWord : IsWord (c :: run) := isRun.word_of_first (by simpa using plain.first)
    ((plain.visible c List.mem_cons_self).ne_of_toNat (by decide))
  have whole := flatten_runsOf (c :: rest)
  have unmarked : holdsMark 'a' (runsOf (c :: rest)).flatten = false := by
    rw [whole]
    exact plain.unmarked
  refine plainRuns_of_unmarked (fun run => isRun_of_mem_runsOf)
    (isChain_runsOf (hasInfix_eq_false (c := '\n') (by simp) noFeed)
      (hasInfix_eq_false (c := '\n') (by simp) noFeed))
    (by rw [shape]; exact List.cons_ne_nil _ _) ?_
    (by rw [whole]; exact plain.visible) (by rw [whole]; exact plain.last)
    (by rw [whole]; exact plain.notComment) unmarked
  rw [shape]
  intro other isFirst
  obtain rfl := Option.some_inj.mp isFirst
  exact isWord

/-- What is written without quotes stands for the text that it is written for. -/
theorem flows_writeScalar {indent least : Nat} (deep : least ≤ indent) (indented : 0 < indent)
    {isKey : Bool} {t : Text} (plain : Style.ofText isKey t = .plain) (column : Nat) :
    Flows least (writeScalar isKey indent column t) t := by
  obtain ⟨written, text, flows⟩ := exists_flows_writeRuns (!isKey) deep indented
    (standsPlain_of_ofText plain).plainRuns true (.start column)
  rw [flatten_runsOf] at flows
  rw [writeScalar, plain]
  dsimp only
  rw [text]
  exact flows

end OutlineSearch.Yaml
