import Mathlib.Algebra.GroupWithZero.Nat
import Mathlib.Data.List.Perm.Basic
import OutlineSearch.Proofs.Query.Outcome
import OutlineSearch.Search.Searcher

/-!
# The order of tokens

In which order the tokens of a query are typed, and with which blanks between them, makes no
difference to a search.  The lines that are found do not depend on it however scores are added;
their scores do not depend on it where the order of addends makes no difference.
-/

namespace OutlineSearch

namespace Query

/-- What a token asks for, wherever it stands. -/
def Token.request (t : Token) : Kind × Text := (t.kind, t.value)

/-- Tokens that ask for the same, each as often, in any order and at any offsets. -/
def SameRequests (tokens others : List Token) : Prop :=
  (tokens.map Token.request).Perm (others.map Token.request)

instance (tokens others : List Token) : Decidable (SameRequests tokens others) :=
  inferInstanceAs (Decidable ((tokens.map Token.request).Perm (others.map Token.request)))

/-- Queries that ask for the same in any order. -/
structure Rearranged (q other : Query) : Prop where
  required : q.required.Perm other.required
  excluded : q.excluded.Perm other.excluded
  patterns : q.patterns.Perm other.patterns
  fuzzy : q.fuzzy.Perm other.fuzzy

section Tokens

variable {tokens others : List Token}

theorem map_value_filter (tokens : List Token) (kind : Kind) :
    (tokens.filter (·.kind = kind)).map (·.value) =
      ((tokens.map Token.request).filter (·.1 = kind)).map (·.2) := by
  rw [List.filter_map, List.map_map]
  rfl

theorem SameRequests.values (same : SameRequests tokens others) (kind : Kind) :
    ((tokens.filter (·.kind = kind)).map (·.value)).Perm
      ((others.filter (·.kind = kind)).map (·.value)) := by
  rw [map_value_filter, map_value_filter]
  exact (same.filter _).map _

theorem SameRequests.symm (same : SameRequests tokens others) : SameRequests others tokens :=
  List.Perm.symm same

/-- A pattern can be read wherever it stands. -/
theorem SameRequests.readable (same : SameRequests tokens others)
    (readable : ∀ t ∈ tokens, t.IsReadable) : ∀ t ∈ others, t.IsReadable := by
  intro t member isPattern
  obtain ⟨u, inTokens, request⟩ :=
    List.mem_map.mp (same.mem_iff.mpr (List.mem_map_of_mem member))
  obtain ⟨kind, value⟩ := Prod.mk.inj request
  rw [← value]
  exact readable u inTokens (kind.trans isPattern)

end Tokens

theorem exists_parse_iff {raw : Text} {tokens : List Token} (split : tokenize raw = .ok tokens) :
    (∃ q, parse raw = .ok q) ↔ ∀ t ∈ tokens, t.IsReadable := by
  constructor
  · rintro ⟨q, parsed⟩
    rcases readable_or_firstRefused {} tokens with readable | ⟨t, fault, first⟩
    · exact readable
    · rw [parse_of_firstRefused split first] at parsed
      cases parsed
  · intro readable
    obtain ⟨q, parsed, -⟩ := parse_of_readable split readable
    exact ⟨q, parsed⟩

theorem rearranged_of_sameRequests {raw reordered : Text} {tokens others : List Token}
    {q other : Query} (split : tokenize raw = .ok tokens)
    (splitOther : tokenize reordered = .ok others) (same : SameRequests tokens others)
    (parsed : parse raw = .ok q) (parsedOther : parse reordered = .ok other) :
    q.Rearranged other := by
  have readable := (exists_parse_iff split).mp ⟨q, parsed⟩
  obtain ⟨made, parsedMade, -, required, excluded, fuzzy, patterns⟩ :=
    parse_of_readable split readable
  obtain rfl := Except.ok.inj (parsedMade.symm.trans parsed)
  obtain ⟨madeOther, parsedMade, -, requiredOther, excludedOther, fuzzyOther, patternsOther⟩ :=
    parse_of_readable splitOther (same.readable readable)
  obtain rfl := Except.ok.inj (parsedMade.symm.trans parsedOther)
  refine ⟨?_, ?_, ?_, ?_⟩
  · rw [required, requiredOther]
    exact same.values .required
  · rw [excluded, excludedOther]
    exact same.values .excluded
  · -- What is read of the patterns is the same in another order, so the patterns are.
    have outcomes : (made.patterns.map (Except.ok (ε := Pattern.Fault))).Perm
        (madeOther.patterns.map Except.ok) := by
      have sources := (same.values .pattern).map fun t => Pattern.read t
      rw [List.map_map, List.map_map] at sources
      rw [patterns, patternsOther]
      exact sources
    exact (List.map_perm_map_iff fun _ _ equality => Except.ok.inj equality).mp outcomes
  · rw [fuzzy, fuzzyOther]
    exact same.values .fuzzy

theorem Rearranged.admits_eq {q other : Query} (rearranged : q.Rearranged other) (text : Text) :
    q.admits text = other.admits text := by
  rw [admits, admits, rearranged.patterns.all_eq, rearranged.required.all_eq,
    rearranged.excluded.any_eq]

end Query

/-- A hit without its score. -/
def Hit.unscored {σ : Type} (h : Hit σ) : Hit Unit := { h with score := () }

/-- Hits of which `view` is taken, in front of others. -/
theorem map_cons_checked {α β : Type} (view : α → β) (hit : α) (hits : Checked (List α)) :
    List.map view <$> ((hit :: ·) <$> hits) = (view hit :: ·) <$> (List.map view <$> hits) := by
  cases hits <;> rfl

theorem map_id_checked {α : Type} (hits : Checked (List α)) : List.map id <$> hits = hits := by
  cases hits with
  | passed hits => exact congrArg Checked.passed (List.map_id hits)
  | failed problems => rfl

namespace Searcher

variable {σ : Type} [Zero σ] [Add σ]

/-- Hits that are the same as far as `view` shows make searches that are the same as far as it
shows, and that end at the same position. -/
theorem scan_congr_query {α : Type} (view : Hit σ → α) {s : Searcher σ} {q other : Query}
    (same : ∀ e p, ({ s with query := q }.hitAt? e p).map view =
      ({ s with query := other }.hitAt? e p).map view) (p : Position) (entries : List Entry) :
    List.map view <$> ({ s with query := q }.scan p entries).1 =
        List.map view <$> ({ s with query := other }.scan p entries).1 ∧
      ({ s with query := q }.scan p entries).2 = ({ s with query := other }.scan p entries).2 := by
  induction entries generalizing p with
  | nil => exact ⟨rfl, rfl⟩
  | cons e rest induction =>
      have advanced : { s with query := q }.advance p e = { s with query := other }.advance p e :=
        rfl
      have checked : { s with query := q }.checkedPath = { s with query := other }.checkedPath :=
        rfl
      have here := same e ({ s with query := other }.advance p e)
      obtain ⟨hits, position⟩ := induction ({ s with query := other }.advance p e)
      simp only [scan, advanced, checked]
      cases found : { s with query := q }.hitAt? e ({ s with query := other }.advance p e) with
      | none =>
          rw [found, Option.map_none] at here
          simp only [Option.map_eq_none_iff.mp here.symm]
          exact ⟨hits, position⟩
      | some hit =>
          rw [found, Option.map_some] at here
          obtain ⟨hitOther, foundOther, viewed⟩ := Option.map_eq_some_iff.mp here.symm
          simp only [foundOther]
          cases { s with query := other }.checkedPath with
          | failed problems => exact ⟨rfl, rfl⟩
          | passed _ =>
              refine ⟨?_, position⟩
              simp only [map_cons_checked, hits, viewed]

section Rearranged

variable {s : Searcher σ} {q other : Query} (rearranged : q.Rearranged other)
include rearranged

/-- Whether a text has a score does not depend on the order of the terms. -/
theorem isSome_score?_eq (text : Text) :
    ({ s with query := q }.score? text).isSome =
      ({ s with query := other }.score? text).isSome := by
  have points := rearranged.fuzzy.filterMap (s.scorer text)
  simp only [score?, points.isEmpty_eq, rearranged.fuzzy.isEmpty_eq]
  split <;> rfl

theorem score?_eq_of_exact (exact : ∀ a b c : σ, a + b + c = a + c + b) (text : Text) :
    { s with query := q }.score? text = { s with query := other }.score? text := by
  have points := rearranged.fuzzy.filterMap (s.scorer text)
  have commutes : RightCommutative (α := σ) (· + ·) := ⟨exact⟩
  simp only [score?, points.isEmpty_eq, rearranged.fuzzy.isEmpty_eq, points.foldl_eq]

theorem hitAt?_unscored_eq (e : Entry) (p : Position) :
    ({ s with query := q }.hitAt? e p).map Hit.unscored =
      ({ s with query := other }.hitAt? e p).map Hit.unscored := by
  have sameText : ∀ line isHeading, { s with query := q }.searchText p.chain line isHeading =
      { s with query := other }.searchText p.chain line isHeading := fun _ _ => rfl
  have scored := isSome_score?_eq (s := s) rearranged
    ({ s with query := other }.searchText p.chain e.text e.isHeading)
  simp only [hitAt?, hit?, sameText, rearranged.admits_eq]
  generalize { s with query := other }.searchText p.chain e.text e.isHeading = text at scored ⊢
  split
  · rfl
  · split
    · cases first : { s with query := q }.score? text with
      | none =>
          have second : { s with query := other }.score? text = none := by
            simpa [first] using scored.symm
          rw [second]
      | some score =>
          rw [first, Option.isSome_some] at scored
          obtain ⟨scoreOther, second⟩ := Option.isSome_iff_exists.mp scored.symm
          rw [second]
          rfl
    · rfl

theorem hitAt?_eq_of_exact (exact : ∀ a b c : σ, a + b + c = a + c + b) (e : Entry)
    (p : Position) :
    { s with query := q }.hitAt? e p = { s with query := other }.hitAt? e p := by
  have sameText : ∀ line isHeading, { s with query := q }.searchText p.chain line isHeading =
      { s with query := other }.searchText p.chain line isHeading := fun _ _ => rfl
  simp only [hitAt?, hit?, sameText, rearranged.admits_eq, score?_eq_of_exact rearranged exact]

end Rearranged

end Searcher

namespace Query

/-- Where the tokens of one query are those of another in any order, both are queries or neither is,
and they find the same lines in every document, from wherever the search starts.  The scores are the
same where the order of addends makes no difference. -/
theorem searchFrom_of_sameRequests {σ : Type} [Zero σ] [Add σ] {raw reordered : Text}
    {tokens others : List Token} (split : tokenize raw = .ok tokens)
    (splitOther : tokenize reordered = .ok others) (same : SameRequests tokens others) :
    ((∃ q, parse raw = .ok q) ↔ ∃ other, parse reordered = .ok other) ∧
    ∀ q other, parse raw = .ok q → parse reordered = .ok other →
      ∀ (s : Searcher σ) (p : Position) (lines : List Text),
        (List.map Hit.unscored <$> ({ s with query := q }.searchFrom p lines).1 =
            List.map Hit.unscored <$> ({ s with query := other }.searchFrom p lines).1 ∧
          ({ s with query := q }.searchFrom p lines).2 =
            ({ s with query := other }.searchFrom p lines).2) ∧
        ((∀ a b c : σ, a + b + c = a + c + b) →
          { s with query := q }.searchFrom p lines =
            { s with query := other }.searchFrom p lines) := by
  constructor
  · rw [exists_parse_iff split, exists_parse_iff splitOther]
    exact ⟨same.readable, same.symm.readable⟩
  · intro q other parsed parsedOther s p lines
    have rearranged := rearranged_of_sameRequests split splitOther same parsed parsedOther
    constructor
    · exact Searcher.scan_congr_query Hit.unscored
        (fun e p => Searcher.hitAt?_unscored_eq rearranged e p) p.reset _
    · intro exact
      have hits := Searcher.scan_congr_query id (s := s) (fun e p =>
        congrArg (Option.map id) (Searcher.hitAt?_eq_of_exact rearranged exact e p)) p.reset
        (entriesOf s.kind lines)
      rw [map_id_checked, map_id_checked] at hits
      exact Prod.ext hits.1 hits.2

/-- Two terms, a required text, an excluded word and a pattern in two orders, where the terms
stand in a different order and the tokens touch. -/
theorem searchFrom_of_sameRequests_touching :
    ∃ q other, parse "foo \"b c\" bar -z \x60p+\x60".toList = .ok q ∧
      parse "\x60p+\x60\"b c\"bar  -z foo".toList = .ok other ∧
      q.fuzzy = ["foo".toList, "bar".toList] ∧ other.fuzzy = ["bar".toList, "foo".toList] ∧
      ∀ (s : Searcher Nat) (p : Position) (lines : List Text),
        { s with query := q }.searchFrom p lines =
          { s with query := other }.searchFrom p lines := by
  have split : tokenize "foo \"b c\" bar -z \x60p+\x60".toList = .ok
      [⟨.fuzzy, "foo".toList, 0⟩, ⟨.required, "b c".toList, 4⟩, ⟨.fuzzy, "bar".toList, 10⟩,
        ⟨.excluded, "z".toList, 14⟩, ⟨.pattern, "p+".toList, 17⟩] :=
    Outcome.eq_ok_of_toOption (by decide +kernel)
  have splitOther : tokenize "\x60p+\x60\"b c\"bar  -z foo".toList = .ok
      [⟨.pattern, "p+".toList, 0⟩, ⟨.required, "b c".toList, 4⟩, ⟨.fuzzy, "bar".toList, 9⟩,
        ⟨.excluded, "z".toList, 14⟩, ⟨.fuzzy, "foo".toList, 17⟩] :=
    Outcome.eq_ok_of_toOption (by decide +kernel)
  have pattern : ∃ p, Pattern.read "p+".toList = .ok p := ⟨_, rfl⟩
  obtain ⟨q, parsed, -, -, -, fuzzy, -⟩ :=
    parse_of_readable split (by simpa [Token.IsReadable] using pattern)
  obtain ⟨other, parsedOther, -, -, -, fuzzyOther, -⟩ :=
    parse_of_readable splitOther (by simpa [Token.IsReadable] using pattern)
  have searches := (searchFrom_of_sameRequests (σ := Nat) split splitOther (by decide)).2
    q other parsed parsedOther
  exact ⟨q, other, parsed, parsedOther, fuzzy, fuzzyOther,
    fun s p lines => (searches s p lines).2 Nat.add_right_comm⟩

end Query

end OutlineSearch
