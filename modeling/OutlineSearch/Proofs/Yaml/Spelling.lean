import OutlineSearch.Proofs.Yaml.Runs

/-!
# Writing between quotes

Whatever is written between quotes spells the text that it is written for, wherever lines are
broken.  Between single quotes this needs a text in which no space stands beside a line feed;
between double quotes it holds of every text.
-/

namespace OutlineSearch.Yaml

/-! ## Between single quotes -/

theorem doubleQuotes_cons (c : Char) (rest : Text) :
    doubleQuotes (c :: rest) = (if c == '\'' then [c, c] else [c]) ++ doubleQuotes rest := rfl

theorem doubleQuotes_replicate {c : Char} (notQuote : c ≠ '\'') (count : Nat) :
    doubleQuotes (List.replicate count c) = List.replicate count c := by
  induction count with
  | zero => rfl
  | succ count induction =>
      rw [List.replicate_succ, doubleQuotes_cons, induction]
      simp [notQuote]

theorem IsWord.doubleQuotes {run : Text} (word : IsWord run) : IsWord (doubleQuotes run) := by
  constructor
  · obtain ⟨c, rest, rfl⟩ := List.exists_cons_of_ne_nil word.nonempty
    rw [doubleQuotes_cons]
    split <;> exact List.cons_ne_nil _ _
  · intro c member
    rw [Yaml.doubleQuotes, List.mem_flatMap] at member
    obtain ⟨d, inRun, image⟩ := member
    have same : c = d := by
      split at image <;> simpa using image
    rw [same]
    exact word.solid d inRun

theorem consRun_doubleQuotes (c : Char) (runs : List Text) (nonempty : ∀ run ∈ runs, run ≠ []) :
    (if c == '\'' then consRun c (consRun c (runs.map doubleQuotes))
      else consRun c (runs.map doubleQuotes)) = (consRun c runs).map doubleQuotes := by
  cases runs with
  | nil =>
      by_cases quote : c = '\''
      · subst quote
        rfl
      · simp [quote, consRun, doubleQuotes]
  | cons run runs =>
      obtain ⟨d, more, rfl⟩ := List.exists_cons_of_ne_nil (nonempty run List.mem_cons_self)
      by_cases quote : c = '\'' <;> by_cases quoteToo : d = '\'' <;>
        by_cases same : runClass c = runClass d <;>
        simp_all [consRun, doubleQuotes]

/-- Writing quotes twice leaves the runs as they are. -/
theorem runsOf_doubleQuotes (t : Text) :
    runsOf (doubleQuotes t) = (runsOf t).map doubleQuotes := by
  induction t with
  | nil => rfl
  | cons c rest induction =>
      have nonempty : ∀ run ∈ runsOf rest, run ≠ [] := by
        intro run member
        cases isRun_of_mem_runsOf member with
        | spaces more => simp
        | feeds more => simp
        | word word => exact word.nonempty
      rw [runsOf_cons, ← consRun_doubleQuotes c _ nonempty, ← induction, doubleQuotes_cons]
      split <;> rfl

theorem Spells.word {run written text : Text} (visible : ∀ c ∈ run, IsInline c ∧ c ≠ ' ')
    (spells : Spells false written text) :
    Spells false (doubleQuotes run ++ written) (run ++ text) := by
  induction run with
  | nil => exact spells
  | cons c rest induction =>
      rw [List.forall_mem_cons] at visible
      have more := induction visible.2
      rw [doubleQuotes_cons]
      by_cases quote : c = '\''
      · subst quote
        exact .twice rfl more
      · rw [if_neg (by simpa using quote)]
        exact .literal visible.1.1 visible.1.2 quote (by simp) more

section Single

variable (mayBreak : Bool) {indent : Nat}

/-- What spells runs, and begins with neither a space nor the end of a line where a word is the
first run. -/
structure SpellsRuns (written : Text) (runs : List Text) : Prop where
  spells : Spells false written runs.flatten
  solid : (∀ run ∈ runs.head?, IsWord run) → StartsSolid written

namespace SpellsRuns

variable {written run : Text} {runs : List Text}

theorem nil : SpellsRuns [] [] := ⟨.nil, fun _ => by simp [StartsSolid]⟩

theorem spaces (more : Nat) (words : ∀ next ∈ runs.head?, IsWord next)
    (spelled : SpellsRuns written runs) :
    SpellsRuns (List.replicate (more + 1) ' ' ++ written)
      (List.replicate (more + 1) ' ' :: runs) :=
  ⟨.spaces (Nat.succ_pos more) (spelled.solid words) spelled.spells,
    fun isWord => (not_isWord_spaces more (isWord _ rfl)).elim⟩

theorem line (indented : 0 < indent) (words : ∀ next ∈ runs.head?, IsWord next)
    (spelled : SpellsRuns written runs) :
    SpellsRuns ('\n' :: (List.replicate indent ' ' ++ written)) ([' '] :: runs) :=
  ⟨@Spells.lines _ 0 _ _ _ indented (spelled.solid words) spelled.spells,
    fun isWord => (not_isWord_spaces 0 (isWord _ rfl)).elim⟩

theorem feeds (more : Nat) (indented : 0 < indent) (words : ∀ next ∈ runs.head?, IsWord next)
    (spelled : SpellsRuns written runs) :
    SpellsRuns
      ('\n' :: (List.replicate (more + 1) '\n' ++ (List.replicate indent ' ' ++ written)))
      (List.replicate (more + 1) '\n' :: runs) :=
  ⟨@Spells.lines _ (more + 1) _ _ _ indented (spelled.solid words) spelled.spells,
    fun isWord => (not_isWord_feeds more (isWord _ rfl)).elim⟩

theorem word (isWord : IsWord run) (simple : ∀ c ∈ run, Style.isSimple c = true)
    (spelled : SpellsRuns written runs) :
    SpellsRuns (doubleQuotes run ++ written) (run :: runs) := by
  have visible : ∀ c ∈ run, IsInline c ∧ c ≠ ' ' := by
    intro c member
    have solid := isWord.solid c member
    exact ⟨((isSimple_iff c).mp (simple c member)).resolve_left solid.2, solid.1⟩
  exact ⟨spelled.spells.word visible, fun _ => isWord.doubleQuotes.startsSolid written⟩

end SpellsRuns

/-- What is written for runs spells them. -/
theorem exists_spellsRuns_writeRuns (indented : 0 < indent) {runs : List Text}
    (isRun : ∀ run ∈ runs, IsRun run) (simple : ∀ run ∈ runs, ∀ c ∈ run, Style.isSimple c = true)
    (chain : List.IsChain Alternate runs) (isFirst : Bool) (w : Written) :
    ∃ written, (writeRuns mayBreak indent isFirst (runs.map doubleQuotes) w).text =
        w.text ++ written ∧ SpellsRuns written runs := by
  induction runs generalizing isFirst w with
  | nil => exact ⟨[], (List.append_nil _).symm, .nil⟩
  | cons run rest induction =>
      rw [List.isChain_cons] at chain
      rw [List.forall_mem_cons] at isRun simple
      have more := fun v : Written => induction isRun.2 simple.2 chain.2 false v
      rw [List.map_cons]
      cases isRun.1 with
      | spaces count =>
          have words : ∀ next ∈ rest.head?, IsWord next := fun next isNext =>
            (chain.1 next isNext).word (not_isWord_spaces count)
          rw [doubleQuotes_replicate (by decide)]
          rcases writeRuns_spaces mayBreak isFirst indent (rest.map doubleQuotes) w count
            with kept | ⟨rfl, -, -, broken⟩
          · obtain ⟨written, text, spelled⟩ := more (w.add (List.replicate (count + 1) ' '))
            refine ⟨_, ?_, spelled.spaces count words⟩
            rw [kept, text, Written.add, List.append_assoc]
          · obtain ⟨written, text, spelled⟩ := more (w.breakLine indent)
            refine ⟨_, ?_, spelled.line indented words⟩
            rw [broken, text, Written.breakLine, List.append_assoc, List.cons_append]
      | feeds count =>
          have words : ∀ next ∈ rest.head?, IsWord next := fun next isNext =>
            (chain.1 next isNext).word (not_isWord_feeds count)
          rw [doubleQuotes_replicate (by decide), writeRuns_feeds]
          obtain ⟨written, text, spelled⟩ := more _
          refine ⟨_, ?_, spelled.feeds count indented words⟩
          rw [text]
          simp only [List.append_assoc, List.cons_append]
      | word word =>
          rw [writeRuns_word _ _ _ _ _ word.doubleQuotes]
          obtain ⟨written, text, spelled⟩ := more (w.add (doubleQuotes run))
          refine ⟨_, ?_, spelled.word word simple.1⟩
          rw [text, Written.add, List.append_assoc]

end Single

/-! ## Between double quotes -/

theorem isInline_of_escape?_eq_none {c : Char} (plain : escape? c = none) :
    IsInline c ∧ c ≠ quoteOf true ∧ c ≠ '\\' := by
  refine ⟨?_, ?_, ?_⟩
  · unfold escape? at plain
    split at plain
    · cases plain
    · split at plain
      · rename_i visible
        rw [Bool.and_eq_true, decide_eq_true_eq, decide_eq_true_eq] at visible
        exact visible
      · split at plain
        · cases plain
        · split at plain <;> cases plain
  · rintro rfl
    cases plain
  · rintro rfl
    cases plain

theorem exists_cons_of_escape? {c : Char} {escape : Text} (escaped : escape? c = some escape) :
    ∃ code, escape = '\\' :: code := by
  rcases exists_code_of_escape? escaped with ⟨letter, rfl, -⟩ | ⟨mark, width, rfl, -⟩
  · exact ⟨_, rfl⟩
  · exact ⟨_, rfl⟩

/-- A space in front of something that spells a text, unless a line ends there. -/
theorem Spells.space {double : Bool} {written text : Text} (spells : Spells double written text)
    (noFeed : written.head? ≠ some '\n') : Spells double (' ' :: written) (' ' :: text) := by
  by_cases space : written.head? = some ' '
  · cases spells with
    | @spaces count written text positive solid spells =>
        exact @Spells.spaces _ (count + 1) _ _ (Nat.succ_pos count) solid spells
    | literal _ notSpace _ _ _ => exact absurd (Option.some_inj.mp space) notSpace
    | _ => cases space
  · exact @Spells.spaces _ 1 _ _ Nat.one_pos ⟨space, noFeed⟩ spells

/-- What a break writes: a backslash behind it keeps a space that follows. -/
def breakText (indent : Nat) (following : Option Char) : Text :=
  '\\' :: '\n' :: (List.replicate indent ' ' ++ if following = some ' ' then ['\\'] else [])

/-- What spells a text, and begins neither with the end of a line nor with a space that the text
does not begin with. -/
structure SpellsOn (written text : Text) : Prop where
  spells : Spells true written text
  noFeed : written.head? ≠ some '\n'
  noSpace : text.head? ≠ some ' ' → written.head? ≠ some ' '

namespace SpellsOn

variable {c : Char} {written text : Text} {indent : Nat}

theorem nil : SpellsOn [] [] := ⟨.nil, by simp, by simp⟩

theorem escape {code : Text} (escapes : escape? c = some ('\\' :: code))
    (spelled : SpellsOn written text) : SpellsOn ('\\' :: (code ++ written)) (c :: text) :=
  ⟨.escape rfl escapes spelled.spells, by simp, by simp⟩

theorem plain (notEscaped : escape? c = none) (spelled : SpellsOn written text) :
    SpellsOn (c :: written) (c :: text) := by
  obtain ⟨visible, notQuote, notBackslash⟩ := isInline_of_escape?_eq_none notEscaped
  have notFeed : c ≠ '\n' := visible.ne_of_toNat (by decide)
  refine ⟨?_, by simpa using notFeed, by simp⟩
  by_cases space : c = ' '
  · subst space
    exact spelled.spells.space spelled.noFeed
  · exact .literal visible space notQuote (fun _ => notBackslash) spelled.spells

/-- A break in front of a character that is written as it is. -/
theorem break_plain (indented : 0 < indent) (notEscaped : escape? c = none)
    (spelled : SpellsOn written text) :
    SpellsOn (breakText indent (some c) ++ c :: written) (c :: text) := by
  obtain ⟨visible, notQuote, notBackslash⟩ := isInline_of_escape?_eq_none notEscaped
  have notFeed : c ≠ '\n' := visible.ne_of_toNat (by decide)
  refine ⟨?_, by simp [breakText], by simp [breakText]⟩
  by_cases space : c = ' '
  · subst space
    simpa [breakText] using
      Spells.joint rfl indented (by simp [StartsSolid]) (.escapedSpace rfl spelled.spells)
  · have solid : StartsSolid (c :: written) := ⟨by simpa using space, by simpa using notFeed⟩
    simpa [breakText, space] using Spells.joint rfl indented solid
      (.literal visible space notQuote (fun _ => notBackslash) spelled.spells)

/-- A break in front of a text that does not begin with a space. -/
theorem break_solid (indented : 0 < indent) (other : text.head? ≠ some ' ')
    (spelled : SpellsOn written text) : SpellsOn (breakText indent text.head? ++ written) text := by
  refine ⟨?_, by simp [breakText], by simp [breakText]⟩
  simpa [breakText, other] using
    Spells.joint rfl indented ⟨spelled.noSpace other, spelled.noFeed⟩ spelled.spells

end SpellsOn

section Double

variable (mayBreak : Bool) (indent : Nat)

theorem writeEscaped_escape {c : Char} {escape : Text} (rest : Text)
    (escaped : escape? c = some escape)
    (behindEscape : Bool) (w : Written) :
    writeEscaped mayBreak indent behindEscape (c :: rest) w =
        writeEscaped mayBreak indent true rest (w.add escape) ∨
      rest ≠ [] ∧ writeEscaped mayBreak indent behindEscape (c :: rest) w =
        writeEscaped mayBreak indent true rest (breakQuoted indent rest.head? (w.add escape)) := by
  rw [writeEscaped, escaped]
  dsimp only
  split
  · rename_i breaks
    simp only [Bool.and_eq_true, Bool.not_eq_true', List.isEmpty_eq_false_iff] at breaks
    exact .inr ⟨breaks.1.2, rfl⟩
  · exact .inl rfl

theorem writeEscaped_plain {c : Char} (rest : Text) (plain : escape? c = none)
    (behindEscape : Bool) (w : Written) :
    writeEscaped mayBreak indent behindEscape (c :: rest) w =
        writeEscaped mayBreak indent false rest (w.add [c]) ∨
      lineWidth < w.column ∧ writeEscaped mayBreak indent behindEscape (c :: rest) w =
        writeEscaped mayBreak indent false rest ((breakQuoted indent (some c) w).add [c]) := by
  rw [writeEscaped, plain]
  dsimp only
  split
  · rename_i breaks
    simp only [Bool.and_eq_true, decide_eq_true_eq] at breaks
    exact .inr ⟨breaks.2, rfl⟩
  · exact .inl rfl

theorem breakQuoted_text (following : Option Char) (w : Written) :
    (breakQuoted indent following w).text = w.text ++ breakText indent following := by
  unfold breakQuoted breakText
  by_cases space : following = some ' '
  · simp [space, Written.add, Written.breakLine]
  · simp [space, Written.add, Written.breakLine]

theorem breakQuoted_column (following : Option Char) (w : Written) :
    (breakQuoted indent following w).column ≤ indent + 1 := by
  unfold breakQuoted
  by_cases space : following = some ' '
  · simp [space, Written.add, Written.breakLine]
  · simp [space, Written.add, Written.breakLine]

variable {indent}

/-- A line is not broken twice in front of a space. -/
theorem writeEscaped_space_of_break (narrow : indent < lineWidth) (rest : Text) (w : Written) :
    writeEscaped mayBreak indent true (' ' :: rest) (breakQuoted indent (some ' ') w) =
      writeEscaped mayBreak indent false rest ((breakQuoted indent (some ' ') w).add [' ']) := by
  refine (writeEscaped_plain mayBreak indent rest rfl true _).resolve_right fun again => ?_
  have near := breakQuoted_column indent (some ' ') w
  omega

/-- What is written for a text between double quotes spells it. -/
theorem exists_spellsOn_writeEscaped (indented : 0 < indent) (narrow : indent < lineWidth)
    (t : Text) (behindEscape : Bool) (w : Written) :
    ∃ written, (writeEscaped mayBreak indent behindEscape t w).text = w.text ++ written ∧
      SpellsOn written t := by
  -- The induction is on the length, because a break in front of a space settles two characters.
  induction length : t.length using Nat.strongRecOn generalizing t behindEscape w with
  | ind length induction =>
  cases t with
  | nil => exact ⟨[], (List.append_nil _).symm, .nil⟩
  | cons c rest =>
      subst length
      have more := fun behind v => induction rest.length (Nat.lt_succ_self _) rest behind v rfl
      cases escapes : escape? c with
      | none =>
          rcases writeEscaped_plain mayBreak indent rest escapes behindEscape w
            with kept | ⟨-, broken⟩
          · obtain ⟨written, text, spelled⟩ := more false (w.add [c])
            refine ⟨_, ?_, spelled.plain escapes⟩
            rw [kept, text, Written.add, List.append_assoc, List.singleton_append]
          · obtain ⟨written, text, spelled⟩ := more false ((breakQuoted indent (some c) w).add [c])
            refine ⟨_, ?_, spelled.break_plain indented escapes⟩
            rw [broken, text, Written.add, breakQuoted_text]
            simp only [List.append_assoc, List.singleton_append]
      | some escape =>
          obtain ⟨code, rfl⟩ := exists_cons_of_escape? escapes
          rcases writeEscaped_escape mayBreak indent rest escapes behindEscape w
            with kept | ⟨-, broken⟩
          · obtain ⟨written, text, spelled⟩ := more true (w.add ('\\' :: code))
            refine ⟨_, ?_, spelled.escape escapes⟩
            rw [kept, text, Written.add, List.append_assoc, List.cons_append]
          · by_cases space : rest.head? = some ' '
            · obtain ⟨rest, rfl⟩ := List.head?_eq_some_iff.mp space
              obtain ⟨written, text, spelled⟩ := induction rest.length
                (by simp only [List.length_cons]; omega) rest false
                ((breakQuoted indent (some ' ') (w.add ('\\' :: code))).add [' ']) rfl
              refine ⟨_, ?_, (spelled.break_plain (c := ' ') indented rfl).escape escapes⟩
              rw [broken, List.head?_cons, writeEscaped_space_of_break mayBreak narrow, text,
                Written.add, breakQuoted_text, Written.add]
              simp only [List.append_assoc, List.cons_append, List.nil_append]
            · obtain ⟨written, text, spelled⟩ :=
                more true (breakQuoted indent rest.head? (w.add ('\\' :: code)))
              refine ⟨_, ?_, (spelled.break_solid indented space).escape escapes⟩
              rw [broken, text, breakQuoted_text, Written.add]
              simp only [List.append_assoc, List.cons_append]

end Double

theorem exists_spells_of_allowsSingle (mayBreak : Bool) {indent : Nat} (indented : 0 < indent)
    {t : Text} (allowed : Style.allowsSingle t = true) (w : Written) :
    ∃ written, Spells false written t ∧
      (writeRuns mayBreak indent true (runsOf (doubleQuotes t)) w).text = w.text ++ written := by
  simp only [Style.allowsSingle, Bool.and_eq_true, Bool.not_eq_true', List.all_eq_true] at allowed
  obtain ⟨⟨simple, noSpaceFeed⟩, noFeedSpace⟩ := allowed
  have simpleRuns : ∀ run ∈ runsOf t, ∀ c ∈ run, Style.isSimple c = true := by
    intro run isRun c member
    apply simple c
    rw [← flatten_runsOf t]
    exact List.mem_flatten_of_mem isRun member
  obtain ⟨written, text, spelled⟩ := exists_spellsRuns_writeRuns mayBreak indented
    (fun run => isRun_of_mem_runsOf) simpleRuns (isChain_runsOf noSpaceFeed noFeedSpace) true w
  refine ⟨written, flatten_runsOf t ▸ spelled.spells, ?_⟩
  rw [runsOf_doubleQuotes, text]

/-- A text that is not written plain is spelled between its quotes. -/
theorem exists_spells_writeScalar {indent : Nat} (indented : 0 < indent)
    (narrow : indent < lineWidth)
    {isKey : Bool} {t : Text} (quoted : Style.ofText isKey t ≠ .plain) (column : Nat) :
    ∃ double written, Spells double written t ∧
      writeScalar isKey indent column t = quoteOf double :: (written ++ [quoteOf double]) := by
  unfold writeScalar
  cases style : Style.ofText isKey t with
  | plain => exact (quoted style).elim
  | singleQuoted =>
      have allowed : Style.allowsSingle t = true := by
        unfold Style.ofText at style
        split at style
        · cases style
        · split at style
          · rename_i single
            exact (Bool.and_eq_true _ _ ▸ single).1
          · cases style
      obtain ⟨written, spells, text⟩ := exists_spells_of_allowsSingle (!isKey) indented allowed
        ((Written.start column).add ['\''])
      refine ⟨false, written, spells, ?_⟩
      dsimp only
      rw [Written.add, text]
      rfl
  | doubleQuoted =>
      cases t with
      | nil => exact ⟨true, [], .nil, rfl⟩
      | cons c rest =>
          obtain ⟨written, text, spelled⟩ := exists_spellsOn_writeEscaped
            (!isKey) indented narrow rest (escape? c).isSome
            (((Written.start column).add ['"']).add ((escape? c).getD [c]))
          refine ⟨true, (escape? c).getD [c] ++ written, ?_, ?_⟩
          · cases escapes : escape? c with
            | some escape =>
                obtain ⟨code, rfl⟩ := exists_cons_of_escape? escapes
                exact (spelled.escape escapes).spells
            | none => exact (spelled.plain escapes).spells
          · dsimp only
            rw [Written.add, text]
            simp [Written.add, Written.start, quoteOf]

end OutlineSearch.Yaml
