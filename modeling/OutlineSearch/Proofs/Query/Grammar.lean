import Mathlib.Data.List.TakeWhile
import OutlineSearch.Query.Basic

/-!
# The grammar of queries

A query is tokens with blanks between them, and blanks around them.  The grammar says how each
kind of token is written and where blanks must stand; it does not mention how a query is
scanned.  A text is split into tokens exactly as the grammar allows, in only one way, and it is
refused exactly where a token would begin with a delimiter that is never closed, or closed at
once.
-/

namespace OutlineSearch.Query

/-- The ways to write a token of a kind with a value. -/
inductive Spells : Kind → Text → Text → Prop where
  | delimited (d : Delimiter) {value : Text} (nonempty : value ≠ [])
      (inside : d.char ∉ value) : Spells d.kind value (d.char :: (value ++ [d.char]))
  | excluded {value : Text} (nonempty : value ≠ [])
      (solid : ∀ c ∈ value, Text.isBlank c = false) : Spells .excluded value ('-' :: value)
  | fuzzy {value : Text} (nonempty : value ≠ [])
      (solid : ∀ c ∈ value, Text.isBlank c = false)
      (undelimited : ∀ d : Delimiter, value.head? ≠ some d.char)
      (undashed : ∀ c rest, value ≠ '-' :: c :: rest) : Spells .fuzzy value value

/-- Tokens of this kind run up to the next blank. -/
def Kind.IsWord (kind : Kind) : Prop := kind = .excluded ∨ kind = .fuzzy

/-- The text from an offset on is tokens, each with the blanks behind it, up to the offset
`finish`, where a token may begin and `tail` remains. -/
inductive Reads (finish : Nat) (tail : Text) : Nat → Text → List Token → Prop where
  | stop : Reads finish tail finish tail []
  | token {kind : Kind} {value written gap rest : Text} {tokens : List Token} {position : Nat}
      (spells : Spells kind value written) (blank : ∀ c ∈ gap, Text.isBlank c = true)
      (apart : kind.IsWord → rest ≠ [] → gap ≠ [])
      (more : Reads finish tail (position + written.length + gap.length) rest tokens) :
      Reads finish tail position (written ++ gap ++ rest) (⟨kind, value, position⟩ :: tokens)

/-- A query begins with tokens, blanks in front of them, and what remains from the offset
`finish` on is `tail`. -/
def Splits (raw : Text) (tokens : List Token) (finish : Nat) (tail : Text) : Prop :=
  ∃ gap rest, raw = gap ++ rest ∧ (∀ c ∈ gap, Text.isBlank c = true) ∧
    Reads finish tail gap.length rest tokens

/-- At an offset a delimiter opens that is never closed, or that is closed at once. -/
inductive OpensBadly (position : Nat) : Text → TokenError → Prop where
  | unclosed (d : Delimiter) {rest : Text} (never : d.char ∉ rest) :
      OpensBadly position (d.char :: rest) (.unclosed d position)
  | nothingBetween (d : Delimiter) (rest : Text) :
      OpensBadly position (d.char :: d.char :: rest) (.nothingBetween d position)

/-! ## One step of the scan -/

theorem ofChar?_char (d : Delimiter) : Delimiter.ofChar? d.char = some d := by
  cases d <;> decide

theorem eq_char_of_ofChar? {c : Char} {d : Delimiter} (delimiter : Delimiter.ofChar? c = some d) :
    c = d.char := by
  unfold Delimiter.ofChar? at delimiter
  split at delimiter
  · rename_i quote
    cases delimiter
    exact quote
  · split at delimiter
    · rename_i backtick
      cases delimiter
      exact backtick
    · cases delimiter

theorem isBlank_char (d : Delimiter) : Text.isBlank d.char = false := by
  cases d <;> decide

theorem tokensFrom_blanks {gap : Text} (blank : ∀ c ∈ gap, Text.isBlank c = true)
    (position : Nat) (rest : Text) :
    tokensFrom position (gap ++ rest) = tokensFrom (position + gap.length) rest := by
  induction gap generalizing position with
  | nil => rfl
  | cons c gap induction =>
      rw [List.forall_mem_cons] at blank
      rw [List.cons_append, tokensFrom, if_pos blank.1, induction blank.2, List.length_cons]
      congr 1
      omega

theorem takeWhile_until {d : Char} {value : Text} (inside : d ∉ value) (rest : Text) :
    (value ++ d :: rest).takeWhile (· != d) = value ∧
      (value ++ d :: rest).dropWhile (· != d) = d :: rest := by
  have others : ∀ c ∈ value, (c != d) = true := by
    intro c member
    rw [bne_iff_ne]
    rintro rfl
    exact inside member
  constructor
  · rw [List.takeWhile_append_of_pos others]
    simp
  · rw [List.dropWhile_append_of_pos others]
    simp

theorem tokensFrom_delimited (d : Delimiter) {value : Text} (nonempty : value ≠ [])
    (inside : d.char ∉ value) (position : Nat) (rest : Text) :
    tokensFrom position (d.char :: (value ++ d.char :: rest)) =
      (⟨d.kind, value, position⟩ :: ·) <$> tokensFrom (position + value.length + 2) rest := by
  obtain ⟨taken, dropped⟩ := takeWhile_until inside rest
  rw [tokensFrom, if_neg (by simp [isBlank_char]), ofChar?_char]
  dsimp only
  rw [taken]
  split
  · rename_i nothing
    rw [dropped] at nothing
    cases nothing
  · rename_i c after shape
    rw [dropped] at shape
    cases shape
    rw [if_neg (by simpa using nonempty)]

theorem tokensFrom_of_opensBadly {position : Nat} {text : Text} {e : TokenError}
    (bad : OpensBadly position text e) : tokensFrom position text = .error e := by
  cases bad with
  | @unclosed d rest never =>
      rw [tokensFrom, if_neg (by simp [isBlank_char]), ofChar?_char]
      dsimp only
      split
      · rfl
      · rename_i c after shape
        have closer : c = d.char := by
          have stops := List.head?_dropWhile_not (· != d.char) rest
          rw [shape] at stops
          simpa using stops
        have member : c ∈ rest :=
          (List.dropWhile_sublist _).subset (shape ▸ List.mem_cons_self)
        exact (never (closer ▸ member)).elim
  | nothingBetween d rest =>
      have dropped : (d.char :: rest).dropWhile (· != d.char) = d.char :: rest :=
        List.dropWhile_cons_of_neg (by simp)
      rw [tokensFrom, if_neg (by simp [isBlank_char]), ofChar?_char]
      dsimp only
      split
      · rename_i nothing
        rw [dropped] at nothing
        cases nothing
      · rw [if_pos (by simp)]

theorem tokensFrom_word {c : Char} {word : Text} (solid : ∀ d ∈ c :: word, Text.isBlank d = false)
    (undelimited : Delimiter.ofChar? c = none) (position : Nat) {rest : Text}
    (ends : ∀ d ∈ rest.head?, Text.isBlank d = true) :
    tokensFrom position (c :: word ++ rest) =
      (Token.ofWord position (c :: word) :: ·) <$>
        tokensFrom (position + (c :: word).length) rest := by
  rw [List.forall_mem_cons] at solid
  have inside : ∀ d ∈ word, inWord d = true := by
    intro d member
    rw [inWord, solid.2 d member]
    rfl
  have taken : rest.takeWhile inWord = [] ∧ rest.dropWhile inWord = rest := by
    cases rest with
    | nil => exact ⟨rfl, rfl⟩
    | cons d rest =>
        have outside : inWord d = false := by rw [inWord, ends d rfl]; rfl
        exact ⟨List.takeWhile_cons_of_neg (by simp [outside]),
          List.dropWhile_cons_of_neg (by simp [outside])⟩
  rw [List.cons_append, tokensFrom, if_neg (by simp [solid.1]), undelimited]
  dsimp only
  rw [List.takeWhile_append_of_pos inside, List.dropWhile_append_of_pos inside, taken.1,
    taken.2, List.append_nil, List.length_cons, Nat.add_assoc]

/-! ## Words -/

/-- A word without a delimiter in front is written as the grammar says, and only as one kind of
token. -/
theorem spells_ofWord {c : Char} {word : Text} (solid : ∀ d ∈ c :: word, Text.isBlank d = false)
    (undelimited : Delimiter.ofChar? c = none) (position : Nat) :
    ∃ kind value, kind.IsWord ∧ Spells kind value (c :: word) ∧
      Token.ofWord position (c :: word) = ⟨kind, value, position⟩ := by
  have notOpening : ∀ d : Delimiter, (c :: word).head? ≠ some d.char := by
    intro d head
    rw [Option.some.inj head, ofChar?_char] at undelimited
    cases undelimited
  by_cases dashed : c = '-' ∧ word ≠ []
  · obtain ⟨rfl, nonempty⟩ := dashed
    obtain ⟨d, more, rfl⟩ := List.exists_cons_of_ne_nil nonempty
    rw [List.forall_mem_cons] at solid
    exact ⟨.excluded, d :: more, Or.inl rfl, .excluded nonempty solid.2, rfl⟩
  · have undashed : ∀ d rest, c :: word ≠ '-' :: d :: rest := by
      rintro d rest same
      cases same
      exact dashed ⟨rfl, List.cons_ne_nil d rest⟩
    refine ⟨.fuzzy, c :: word, Or.inr rfl,
      .fuzzy (List.cons_ne_nil c word) solid notOpening undashed, ?_⟩
    unfold Token.ofWord
    split
    · rename_i d rest same
      exact (undashed d rest same).elim
    · rfl

theorem exists_word_of_spells {kind : Kind} {value written : Text}
    (spells : Spells kind value written) (isWord : kind.IsWord) :
    ∃ c word, written = c :: word ∧ (∀ d ∈ c :: word, Text.isBlank d = false) ∧
      Delimiter.ofChar? c = none ∧
      ∀ position, Token.ofWord position (c :: word) = ⟨kind, value, position⟩ := by
  cases spells with
  | delimited d nonempty inside => cases d <;> rcases isWord with isWord | isWord <;> cases isWord
  | excluded nonempty solid =>
      obtain ⟨d, more, rfl⟩ := List.exists_cons_of_ne_nil nonempty
      refine ⟨'-', d :: more, rfl, ?_, by decide, fun _ => rfl⟩
      exact List.forall_mem_cons.mpr ⟨by decide, solid⟩
  | fuzzy nonempty solid undelimited undashed =>
      obtain ⟨c, word, rfl⟩ := List.exists_cons_of_ne_nil nonempty
      refine ⟨c, word, rfl, solid, ?_, ?_⟩
      · cases opening : Delimiter.ofChar? c with
        | none => rfl
        | some d => exact (undelimited d (by rw [eq_char_of_ofChar? opening]; rfl)).elim
      · intro position
        unfold Token.ofWord
        split
        · rename_i d rest same
          exact (undashed d rest same).elim
        · rfl

/-! ## The whole query -/

theorem isBlank_of_gap {gap rest : Text} (blank : ∀ c ∈ gap, Text.isBlank c = true)
    (apart : rest ≠ [] → gap ≠ []) : ∀ c ∈ (gap ++ rest).head?, Text.isBlank c = true := by
  intro c head
  cases gap with
  | nil =>
      cases rest with
      | nil => cases head
      | cons d rest => exact (apart (List.cons_ne_nil d rest) rfl).elim
  | cons d gap =>
      obtain rfl : d = c := Option.some.inj head
      exact blank d List.mem_cons_self

/-- What the grammar reads is what the scan reads. -/
theorem tokensFrom_of_reads {finish position : Nat} {tail text : Text} {tokens : List Token}
    (reads : Reads finish tail position text tokens) :
    tokensFrom position text = (tokens ++ ·) <$> tokensFrom finish tail := by
  induction reads with
  | stop => cases tokensFrom finish tail <;> rfl
  | @token kind value written gap rest tokens position spells blank apart more induction =>
      have scanned : tokensFrom position (written ++ (gap ++ rest)) =
          (⟨kind, value, position⟩ :: ·) <$>
            tokensFrom (position + written.length) (gap ++ rest) := by
        by_cases isWord : kind.IsWord
        · obtain ⟨c, word, rfl, solid, undelimited, token⟩ := exists_word_of_spells spells isWord
          rw [tokensFrom_word solid undelimited position (isBlank_of_gap blank (apart isWord)),
            token]
        · cases spells with
          | delimited d nonempty inside =>
              have length : (d.char :: (value ++ [d.char])).length = value.length + 2 := by simp
              rw [length, List.cons_append, List.append_assoc, List.singleton_append,
                tokensFrom_delimited d nonempty inside, Nat.add_assoc]
          | excluded _ _ => exact (isWord (Or.inl rfl)).elim
          | fuzzy _ _ _ _ => exact (isWord (Or.inr rfl)).elim
      rw [List.append_assoc, scanned, tokensFrom_blanks blank, induction]
      cases tokensFrom finish tail <;> rfl

theorem tokenize_of_splits {raw tail : Text} {tokens : List Token} {finish : Nat}
    (splits : Splits raw tokens finish tail) :
    tokenize raw = (tokens ++ ·) <$> tokensFrom finish tail := by
  obtain ⟨gap, rest, rfl, blank, reads⟩ := splits
  rw [tokenize, tokensFrom_blanks blank, Nat.zero_add, tokensFrom_of_reads reads]

theorem exists_blanks (text : Text) :
    ∃ gap rest, text = gap ++ rest ∧ (∀ c ∈ gap, Text.isBlank c = true) ∧
      ∀ c ∈ rest.head?, Text.isBlank c = false := by
  refine ⟨text.takeWhile Text.isBlank, text.dropWhile Text.isBlank,
    List.takeWhile_append_dropWhile.symm, ?_, ?_⟩
  · intro c member
    exact List.mem_takeWhile_imp member
  · intro c head
    have stops := List.head?_dropWhile_not Text.isBlank text
    rw [head] at stops
    simpa using stops

/-- What the grammar says of a text that begins where a token may begin: it is read to its end
or up to a delimiter that opens badly. -/
def Decided (position : Nat) (text : Text) : Prop :=
  ∃ finish tail tokens, Reads finish tail position text tokens ∧
    (tail = [] ∨ ∃ e, OpensBadly finish tail e)

/-- The delimiter that opens a text is closed behind a value, or it opens badly. -/
theorem closes_or_opensBadly (d : Delimiter) (position : Nat) (text : Text) :
    (∃ value rest, value ≠ [] ∧ d.char ∉ value ∧ text = value ++ d.char :: rest) ∨
      ∃ e, OpensBadly position (d.char :: text) e := by
  by_cases closed : d.char ∈ text
  · obtain ⟨value, rest, rfl, inside⟩ := List.eq_append_cons_of_mem closed
    by_cases nonempty : value = []
    · subst nonempty
      exact Or.inr ⟨_, .nothingBetween d rest⟩
    · exact Or.inl ⟨value, rest, nonempty, inside, rfl⟩
  · exact Or.inr ⟨_, .unclosed d closed⟩

theorem decided_token {kind : Kind} {value written text : Text} (spells : Spells kind value written)
    (ends : kind.IsWord → ∀ c ∈ text.head?, Text.isBlank c = true) (position : Nat)
    (more : ∀ start rest, rest.length ≤ text.length → (∀ c ∈ rest.head?, Text.isBlank c = false) →
      Decided start rest) : Decided position (written ++ text) := by
  obtain ⟨gap, rest, rfl, blank, solid⟩ := exists_blanks text
  have apart : kind.IsWord → rest ≠ [] → gap ≠ [] := by
    rintro isWord nonempty rfl
    obtain ⟨c, rest, rfl⟩ := List.exists_cons_of_ne_nil nonempty
    have isBlank := ends isWord c rfl
    rw [solid c rfl] at isBlank
    cases isBlank
  obtain ⟨finish, tail, tokens, reads, decided⟩ :=
    more (position + written.length + gap.length) rest (by simp) solid
  refine ⟨finish, tail, ⟨kind, value, position⟩ :: tokens, ?_, decided⟩
  rw [← List.append_assoc]
  exact .token spells blank apart reads

theorem decided (position : Nat) (text : Text) (solid : ∀ c ∈ text.head?, Text.isBlank c = false) :
    Decided position text := by
  induction length : text.length using Nat.strong_induction_on generalizing position text with
  | _ n induction =>
      cases text with
      | nil => exact ⟨position, [], [], .stop, Or.inl rfl⟩
      | cons c text =>
          have shorter : ∀ suffix : Text, suffix.length ≤ text.length → ∀ start rest,
              rest.length ≤ suffix.length → (∀ d ∈ rest.head?, Text.isBlank d = false) →
                Decided start rest := by
            intro suffix isSuffix start rest isRest front
            refine induction rest.length ?_ start rest front rfl
            rw [← length, List.length_cons]
            omega
          cases opening : Delimiter.ofChar? c with
          | some d =>
              obtain rfl := eq_char_of_ofChar? opening
              obtain ⟨value, rest, nonempty, inside, rfl⟩ | bad :=
                closes_or_opensBadly d position text
              · have ends : d.kind.IsWord → ∀ c ∈ rest.head?, Text.isBlank c = true := by
                  rintro (isWord | isWord) <;> cases d <;> cases isWord
                have token := decided_token (.delimited d nonempty inside) ends position
                  (shorter rest (by simp; omega))
                simpa using token
              · exact ⟨position, _, [], .stop, Or.inr bad⟩
          | none =>
              have inside : ∀ d ∈ c :: text.takeWhile inWord, Text.isBlank d = false := by
                refine List.forall_mem_cons.mpr ⟨solid c rfl, fun d member => ?_⟩
                simpa [inWord] using List.mem_takeWhile_imp member
              have ends : ∀ d ∈ (text.dropWhile inWord).head?, Text.isBlank d = true := by
                intro d head
                have stops := List.head?_dropWhile_not inWord text
                rw [head] at stops
                simpa [inWord] using stops
              obtain ⟨kind, value, -, spells, -⟩ := spells_ofWord inside opening position
              have token := decided_token spells (fun _ => ends) position
                (shorter _ (length_dropWhile_le inWord text))
              rwa [List.cons_append, List.takeWhile_append_dropWhile] at token

/-- Every query is split to its end, or up to a delimiter that opens badly. -/
theorem exists_splits (raw : Text) :
    ∃ tokens finish tail, Splits raw tokens finish tail ∧
      (tail = [] ∨ ∃ e, OpensBadly finish tail e) := by
  obtain ⟨gap, rest, rfl, blank, solid⟩ := exists_blanks raw
  obtain ⟨finish, tail, tokens, reads, decided⟩ := decided gap.length rest solid
  exact ⟨tokens, finish, tail, ⟨gap, rest, rfl, blank, reads⟩, decided⟩

theorem tokensFrom_nil (position : Nat) : tokensFrom position [] = .ok [] := by
  rw [tokensFrom]

theorem tokenize_eq_ok_iff (raw : Text) (tokens : List Token) :
    tokenize raw = .ok tokens ↔ ∃ finish, Splits raw tokens finish [] := by
  constructor
  · intro accepted
    obtain ⟨read, finish, tail, splits, rfl | ⟨e, bad⟩⟩ := exists_splits raw
    · rw [tokenize_of_splits splits, tokensFrom_nil] at accepted
      have same : read = tokens := by simpa using accepted
      exact ⟨finish, same ▸ splits⟩
    · rw [tokenize_of_splits splits, tokensFrom_of_opensBadly bad] at accepted
      cases accepted
  · rintro ⟨finish, splits⟩
    rw [tokenize_of_splits splits, tokensFrom_nil]
    simp

theorem tokenize_eq_error_iff (raw : Text) (e : TokenError) :
    tokenize raw = .error e ↔
      ∃ tokens finish tail, Splits raw tokens finish tail ∧ OpensBadly finish tail e := by
  constructor
  · intro refused
    obtain ⟨read, finish, tail, splits, rfl | ⟨found, bad⟩⟩ := exists_splits raw
    · rw [tokenize_of_splits splits, tokensFrom_nil] at refused
      cases refused
    · have same : found = e := by
        rw [tokenize_of_splits splits, tokensFrom_of_opensBadly bad] at refused
        exact Except.error.inj refused
      exact ⟨read, finish, tail, splits, same ▸ bad⟩
  · rintro ⟨tokens, finish, tail, splits, bad⟩
    rw [tokenize_of_splits splits, tokensFrom_of_opensBadly bad]
    rfl

end OutlineSearch.Query
