import OutlineSearch.Proofs.Outcomes
import OutlineSearch.Proofs.Query.Grammar

/-!
# What becomes of a query

A query whose patterns can all be read keeps its tokens by kind, each kind in the order in which
it was typed.  Otherwise the first pattern that cannot be read decides.  A pattern with a defect
makes the query refused, and the refusal tells where the pattern begins.  A pattern that exceeds
a limit ends the reading without a refusal.
-/

namespace OutlineSearch.Query

/-- A token that is no pattern, or one that can be read. -/
def Token.IsReadable (t : Token) (host : Pattern.Host := {}) : Prop :=
  t.kind = .pattern → ∃ p, Pattern.read t.value host = .ok p

/-- The first token that cannot be read, and why. -/
inductive FirstRefused (host : Pattern.Host) (t : Token) (fault : Pattern.Fault) :
    List Token → Prop where
  | here {rest : List Token} (isPattern : t.kind = .pattern)
      (refused : Pattern.read t.value host = .error fault) : FirstRefused host t fault (t :: rest)
  | later {u : Token} {rest : List Token} (readable : u.IsReadable host)
      (more : FirstRefused host t fault rest) : FirstRefused host t fault (u :: rest)

variable {host : Pattern.Host}

/-! ## Reading the patterns -/

theorem readPattern_of_ne {t : Token} (other : t.kind ≠ .pattern) :
    readPattern host t = .ok [] := by
  unfold readPattern
  split
  · rename_i isPattern
    exact (other isPattern).elim
  · rfl

theorem readPattern_of_read {t : Token} {p : Pattern} (isPattern : t.kind = .pattern)
    (read : Pattern.read t.value host = .ok p) : readPattern host t = .ok [p] := by
  simp [readPattern, isPattern, read]

/-- How a query fails whose first unreadable pattern has a given fault. -/
def failureOf (t : Token) : Pattern.Fault → Failure
  | .defect d => .refused (.pattern t.value t.position d)
  | .overrun o => .overrun o

theorem readPattern_of_refused {t : Token} {fault : Pattern.Fault} (isPattern : t.kind = .pattern)
    (refused : Pattern.read t.value host = .error fault) :
    readPattern host t = .error (failureOf t fault) := by
  cases fault <;> simp [readPattern, isPattern, refused, failureOf]

theorem readPattern_of_isReadable {t : Token} (readable : t.IsReadable host) :
    ∃ patterns, readPattern host t = .ok patterns ∧
      patterns.map Except.ok =
        ([t].filter (·.kind = .pattern)).map fun u => Pattern.read u.value host := by
  by_cases isPattern : t.kind = .pattern
  · obtain ⟨p, read⟩ := readable isPattern
    exact ⟨[p], readPattern_of_read isPattern read, by simp [isPattern, read]⟩
  · exact ⟨[], readPattern_of_ne isPattern, by simp [isPattern]⟩

theorem readable_or_firstRefused (host : Pattern.Host) (tokens : List Token) :
    (∀ t ∈ tokens, t.IsReadable host) ∨ ∃ t fault, FirstRefused host t fault tokens := by
  induction tokens with
  | nil => exact Or.inl (by simp)
  | cons t rest induction =>
      by_cases readable : t.IsReadable host
      · rcases induction with all | ⟨u, fault, first⟩
        · exact Or.inl (List.forall_mem_cons.mpr ⟨readable, all⟩)
        · exact Or.inr ⟨u, fault, .later readable first⟩
      · right
        rw [Token.IsReadable, Classical.not_imp, not_exists] at readable
        obtain ⟨isPattern, unread⟩ := readable
        cases outcome : Pattern.read t.value host with
        | ok p => exact (unread p outcome).elim
        | error fault => exact ⟨t, fault, .here isPattern outcome⟩

theorem mapM_readPattern {tokens : List Token} (readable : ∀ t ∈ tokens, t.IsReadable host) :
    ∃ patterns, tokens.mapM (readPattern host) = .ok patterns ∧
      patterns.flatten.map Except.ok =
        (tokens.filter (·.kind = .pattern)).map fun t => Pattern.read t.value host := by
  induction tokens with
  | nil => exact ⟨[], rfl, rfl⟩
  | cons t rest induction =>
      rw [List.forall_mem_cons] at readable
      obtain ⟨first, readFirst, sameFirst⟩ := readPattern_of_isReadable readable.1
      obtain ⟨more, readMore, sameMore⟩ := induction readable.2
      refine ⟨first :: more, ?_, ?_⟩
      · rw [List.mapM_cons, readFirst, readMore]
        rfl
      · rw [List.flatten_cons, List.map_append, sameFirst, sameMore, ← List.map_append,
          ← List.filter_append, List.singleton_append]

theorem mapM_readPattern_of_firstRefused {tokens : List Token} {t : Token}
    {fault : Pattern.Fault} (first : FirstRefused host t fault tokens) :
    tokens.mapM (readPattern host) = .error (failureOf t fault) := by
  induction first with
  | here isPattern refused =>
      rw [List.mapM_cons, readPattern_of_refused isPattern refused]
      rfl
  | later readable _ induction =>
      obtain ⟨patterns, read, -⟩ := readPattern_of_isReadable readable
      rw [List.mapM_cons, read, induction]
      rfl

/-! ## The query -/

theorem parse_of_readable {raw : Text} {tokens : List Token} (split : tokenize raw = .ok tokens)
    (readable : ∀ t ∈ tokens, t.IsReadable host) :
    ∃ q, parse raw host = .ok q ∧ q.full = raw ∧
      q.required = (tokens.filter (·.kind = .required)).map (·.value) ∧
      q.excluded = (tokens.filter (·.kind = .excluded)).map (·.value) ∧
      q.fuzzy = (tokens.filter (·.kind = .fuzzy)).map (·.value) ∧
      q.patterns.map Except.ok =
        (tokens.filter (·.kind = .pattern)).map fun t => Pattern.read t.value host := by
  obtain ⟨patterns, read, same⟩ := mapM_readPattern readable
  refine ⟨⟨raw, _, _, patterns.flatten, _⟩, ?_, rfl, rfl, rfl, rfl, same⟩
  rw [parse, split]
  simp only [ofTokens, read]
  rfl

theorem parse_of_firstRefused {raw : Text} {tokens : List Token} {t : Token}
    {fault : Pattern.Fault} (split : tokenize raw = .ok tokens)
    (first : FirstRefused host t fault tokens) : parse raw host = .error (failureOf t fault) := by
  rw [parse, split]
  simp only [ofTokens, mapM_readPattern_of_firstRefused first]
  rfl

theorem parse_of_error {raw : Text} {e : TokenError} (split : tokenize raw = .error e) :
    parse raw host = .error (.refused (.token e)) := by
  rw [parse, split]

theorem eq_nil_of_kinds {tokens : List Token}
    (none : ∀ kind, tokens.filter (·.kind = kind) = []) : tokens = [] := by
  cases tokens with
  | nil => rfl
  | cons t rest =>
      have absent := none t.kind
      simp at absent

theorem splits_nil_iff (raw : Text) :
    (∃ finish, Splits raw [] finish []) ↔ ∀ c ∈ raw, Text.isBlank c = true := by
  constructor
  · rintro ⟨finish, gap, rest, rfl, blank, reads⟩
    cases reads
    simpa using blank
  · intro blank
    exact ⟨raw.length, raw, [], by simp, blank, .stop⟩

/-- A query that can be read asks for nothing exactly if it is blank. -/
theorem isEmpty_iff {raw : Text} {tokens : List Token} {q : Query}
    (split : tokenize raw = .ok tokens)
    (required : q.required = (tokens.filter (·.kind = .required)).map (·.value))
    (excluded : q.excluded = (tokens.filter (·.kind = .excluded)).map (·.value))
    (fuzzy : q.fuzzy = (tokens.filter (·.kind = .fuzzy)).map (·.value))
    (patterns : q.patterns.map Except.ok =
      (tokens.filter (·.kind = .pattern)).map fun t => Pattern.read t.value) :
    q.isEmpty = true ↔ ∀ c ∈ raw, Text.isBlank c = true := by
  have emptyPatterns : q.patterns = [] ↔ tokens.filter (·.kind = .pattern) = [] := by
    rw [← List.map_eq_nil_iff (f := Except.ok (ε := Pattern.Fault)), patterns,
      List.map_eq_nil_iff]
  have empty : q.isEmpty = true ↔ tokens = [] := by
    simp only [isEmpty, required, excluded, fuzzy, Bool.and_eq_true, List.isEmpty_iff,
      List.map_eq_nil_iff, emptyPatterns]
    constructor
    · rintro ⟨⟨⟨noRequired, noExcluded⟩, noPattern⟩, noFuzzy⟩
      apply eq_nil_of_kinds
      intro kind
      cases kind with
      | required => exact noRequired
      | excluded => exact noExcluded
      | pattern => exact noPattern
      | fuzzy => exact noFuzzy
    · rintro rfl
      exact ⟨⟨⟨rfl, rfl⟩, rfl⟩, rfl⟩
  rw [empty, ← splits_nil_iff, ← tokenize_eq_ok_iff, split]
  simp

/-- Queries are split as the grammar says, and refused where the grammar cannot go on; what has
been split is kept by kind and in order. -/
theorem tokenize_parse_grammar (raw : Text) :
    (∀ tokens, tokenize raw = .ok tokens ↔ ∃ finish, Splits raw tokens finish []) ∧
    (∀ e, tokenize raw = .error e ↔
      ∃ tokens tail, Splits raw tokens e.position tail ∧ OpensBadly e.position tail e) ∧
    (∀ tokens, tokenize raw = .ok tokens → (∀ t ∈ tokens, t.IsReadable) →
      ∃ q, parse raw = .ok q ∧ q.full = raw ∧
        q.required = (tokens.filter (·.kind = .required)).map (·.value) ∧
        q.excluded = (tokens.filter (·.kind = .excluded)).map (·.value) ∧
        q.fuzzy = (tokens.filter (·.kind = .fuzzy)).map (·.value) ∧
        q.patterns.map Except.ok =
          (tokens.filter (·.kind = .pattern)).map (fun t => Pattern.read t.value) ∧
        (q.isEmpty = true ↔ ∀ c ∈ raw, Text.isBlank c = true)) := by
  refine ⟨tokenize_eq_ok_iff raw, fun e => ?_, fun tokens split readable => ?_⟩
  · rw [tokenize_eq_error_iff]
    constructor
    · rintro ⟨tokens, finish, tail, splits, bad⟩
      have place : e.position = finish := by cases bad <;> rfl
      rw [place]
      exact ⟨tokens, tail, splits, bad⟩
    · rintro ⟨tokens, tail, splits, bad⟩
      exact ⟨tokens, e.position, tail, splits, bad⟩
  · obtain ⟨q, parsed, full, required, excluded, fuzzy, patterns⟩ :=
      parse_of_readable split readable
    exact ⟨q, parsed, full, required, excluded, fuzzy, patterns,
      isEmpty_iff split required excluded fuzzy patterns⟩

/-- A required text with a blank in it, a word with a dash inside that follows without a blank,
an excluded word, and a pattern. -/
theorem tokenize_parse_touching_tokens :
    ∃ q, parse "\"a b\"x-y -z \x60p+\x60 ".toList = .ok q ∧ q.required = ["a b".toList] ∧
      q.fuzzy = ["x-y".toList] ∧ q.excluded = ["z".toList] ∧ ¬q.isEmpty = true := by
  have split : tokenize "\"a b\"x-y -z \x60p+\x60 ".toList = .ok
      [⟨.required, "a b".toList, 0⟩, ⟨.fuzzy, "x-y".toList, 5⟩, ⟨.excluded, "z".toList, 9⟩,
        ⟨.pattern, "p+".toList, 12⟩] :=
    Outcome.eq_ok_of_toOption (by decide +kernel)
  have readable : ∀ t ∈ [(⟨.required, "a b".toList, 0⟩ : Token), ⟨.fuzzy, "x-y".toList, 5⟩,
      ⟨.excluded, "z".toList, 9⟩, ⟨.pattern, "p+".toList, 12⟩], t.IsReadable := by
    have pattern : ∃ p, Pattern.read "p+".toList = .ok p := ⟨_, rfl⟩
    simpa [Token.IsReadable] using pattern
  obtain ⟨q, parsed, -, required, excluded, fuzzy, -, empty⟩ :=
    (tokenize_parse_grammar _).2.2 _ split readable
  refine ⟨q, parsed, required, fuzzy, excluded, fun isEmpty => ?_⟩
  have solid : Text.isBlank 'a' = false := by decide
  rw [empty.mp isEmpty 'a' (by simp)] at solid
  cases solid

/-! ## Failures -/

theorem parse_eq_error_iff (host : Pattern.Host) (raw : Text) (f : Failure) :
    parse raw host = .error f ↔
      (∃ e, tokenize raw = .error e ∧ f = .refused (.token e)) ∨
        ∃ tokens t fault, tokenize raw = .ok tokens ∧ FirstRefused host t fault tokens ∧
          f = failureOf t fault := by
  constructor
  · intro failed
    cases split : tokenize raw with
    | error e =>
        rw [parse_of_error split] at failed
        exact Or.inl ⟨e, rfl, (Except.error.inj failed).symm⟩
    | ok tokens =>
        rcases readable_or_firstRefused host tokens with readable | ⟨t, fault, first⟩
        · obtain ⟨q, parsed, -⟩ := parse_of_readable split readable
          rw [parsed] at failed
          cases failed
        · rw [parse_of_firstRefused split first] at failed
          exact Or.inr ⟨tokens, t, fault, rfl, first, (Except.error.inj failed).symm⟩
  · rintro (⟨e, split, rfl⟩ | ⟨tokens, t, fault, split, first, rfl⟩)
    · exact parse_of_error split
    · exact parse_of_firstRefused split first

/-- At an offset of a query a delimiter opens badly, or the first pattern begins that cannot be
read, and it has a defect. -/
def OffendsAt (host : Pattern.Host) (raw : Text) (position : Nat) : Prop :=
  (∃ tokens tail e, Splits raw tokens position tail ∧ OpensBadly position tail e) ∨
    ∃ tokens t d, tokenize raw = .ok tokens ∧ FirstRefused host t (.defect d) tokens ∧
      t.position = position

/-- The first pattern of a query that cannot be read exceeds a limit. -/
def Overruns (host : Pattern.Host) (raw : Text) : Prop :=
  ∃ tokens t o, tokenize raw = .ok tokens ∧ FirstRefused host t (.overrun o) tokens

theorem offendsAt_of_refused {raw : Text} {e : Error}
    (failed : parse raw host = .error (.refused e)) : OffendsAt host raw e.position := by
  rcases (parse_eq_error_iff host raw _).mp failed with
    ⟨found, split, same⟩ | ⟨tokens, t, fault, split, first, same⟩
  · cases same
    obtain ⟨tokens, finish, tail, splits, bad⟩ := (tokenize_eq_error_iff raw found).mp split
    have place : found.position = finish := by cases bad <;> rfl
    rw [← place] at splits bad
    exact Or.inl ⟨tokens, tail, found, splits, bad⟩
  · cases fault with
    | defect d =>
        cases same
        exact Or.inr ⟨tokens, t, d, split, first, rfl⟩
    | overrun o => cases same

/-- A query is read, or refused at the token that offends, unless the first pattern that cannot
be read exceeds a limit; then it is neither.  This holds whatever names characters have on the
machine and however much room its stack leaves to the reader of patterns. -/
theorem parse_or_refused_iff (host : Pattern.Host) (raw : Text) :
    ((∃ q, parse raw host = .ok q) ∨
        ∃ e, parse raw host = .error (.refused e) ∧ OffendsAt host raw e.position) ↔
      ¬Overruns host raw := by
  constructor
  · rintro outcome ⟨tokens, t, o, split, first⟩
    have escaped : parse raw host = .error (.overrun o) := parse_of_firstRefused split first
    rw [escaped] at outcome
    rcases outcome with ⟨q, parsed⟩ | ⟨e, refused, -⟩
    · cases parsed
    · cases refused
  · intro fits
    cases outcome : parse raw host with
    | ok q => exact Or.inl ⟨q, rfl⟩
    | error f =>
        cases f with
        | refused e => exact Or.inr ⟨e, rfl, offendsAt_of_refused outcome⟩
        | overrun o =>
            rcases (parse_eq_error_iff host raw _).mp outcome with
              ⟨e, -, same⟩ | ⟨tokens, t, fault, split, first, same⟩
            · cases same
            · cases fault with
              | defect d => cases same
              | overrun found => exact (fits ⟨tokens, t, found, split, first⟩).elim

/-- A pattern that repeats something too often is not refused, and no query is made of it either. -/
theorem large_count_escapes :
    ¬∀ raw : Text, (∃ q, parse raw = .ok q) ∨ ∃ e, parse raw = .error (.refused e) := by
  intro total
  have escaped : parse "\x60x{4294967295}\x60".toList = .error (.overrun .rounds) :=
    Outcome.eq_error_of_error? (by decide +kernel)
  have outcome := total "\x60x{4294967295}\x60".toList
  rw [escaped] at outcome
  rcases outcome with ⟨q, parsed⟩ | ⟨e, refused⟩
  · cases parsed
  · cases refused

end OutlineSearch.Query
