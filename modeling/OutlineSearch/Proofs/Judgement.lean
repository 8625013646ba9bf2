import Mathlib.Data.List.Infix
import OutlineSearch.Proofs.Chain
import OutlineSearch.Proofs.Entries

/-!
# Judging lines one by one

A search carries a position from line to line, and with it whether the section is passed
over.  Here each line is judged on its own: by the chain of the headings up to it, by the
criteria, and by the query, all stated without reference to the search.  The main statement
is that a search reports exactly the lines that are judged so.
-/

namespace OutlineSearch

namespace Text

theorem hasInfix_iff (needle text : Text) : hasInfix needle text = true ↔ needle <:+: text := by
  induction text with
  | nil => simp [hasInfix]
  | cons c rest induction =>
      simp [hasInfix, List.infix_cons_iff, induction]

end Text

namespace Criteria

/-- Criteria without any condition. -/
structure Unrestricted (c : Criteria) : Prop where
  tagged : c.tagged = []
  properties : c.properties = []
  todo : c.todo = []
  priority : c.priority = []
  below : c.below = none
  above : c.above = none
  schedule : c.schedule = none

/-- The conditions on a section.  Tags and properties may stand on any heading of the chain,
everything else is asked of the innermost one. -/
structure Hold (c : Criteria) (chain : List Heading) (innermost : Heading) : Prop where
  tagged : ∀ tag ∈ c.tagged, ∃ heading ∈ chain, tag ∈ heading.tags
  properties : ∀ entry ∈ c.properties, ∃ heading ∈ chain,
    heading.properties.lookup entry.1 = some entry.2
  todo : c.todo ≠ [] → ∃ todo, innermost.todo = some todo ∧ todo.word ∈ c.todo
  priority : c.priority ≠ [] → ∃ p, innermost.priority = some p ∧ p ∈ c.priority
  below : ∀ bound, c.below = some bound →
    ∃ p, innermost.priority = some p ∧ p.compare bound = .lt
  above : ∀ bound, c.above = some bound →
    ∃ p, innermost.priority = some p ∧ p.compare bound = .gt
  schedule : ∀ day, c.schedule = some day →
    ∃ t, innermost.timestamp = some t ∧ t.fallsOn day = true

theorem active_eq_nil_iff (c : Criteria) : c.active = [] ↔ c.Unrestricted := by
  constructor
  · intro inactive
    simp only [active, Filter.all, List.filter_eq_nil_iff] at inactive
    constructor <;> simp_all [has]
  · intro unrestricted
    obtain ⟨tagged, properties, todo, priority, below, above, schedule⟩ := unrestricted
    simp [active, Filter.all, has, tagged, properties, todo, priority, below, above, schedule]

section Meets

variable (c : Criteria) (chain : List Heading) (innermost : Heading)

theorem meets_tags_iff : c.meets chain innermost .tags = true ↔
    ∀ tag ∈ c.tagged, ∃ heading ∈ chain, tag ∈ heading.tags := by
  simp [meets, Heading.hasTag]

theorem meets_properties_iff : c.meets chain innermost .properties = true ↔
    ∀ entry ∈ c.properties, ∃ heading ∈ chain,
      heading.properties.lookup entry.1 = some entry.2 := by
  simp [meets, Heading.hasProperty]

theorem meets_todo_iff : c.meets chain innermost .todo = true ↔
    ∃ todo, innermost.todo = some todo ∧ todo.word ∈ c.todo := by
  simp [meets, Option.any_eq_true]

theorem meets_priority_iff : c.meets chain innermost .priority = true ↔
    ∃ p, innermost.priority = some p ∧ p ∈ c.priority := by
  have sameToken : ∀ p : Priority,
      (c.priority.any fun q => q.token = p.token) = true ↔ p ∈ c.priority := by
    intro p
    rw [List.any_eq_true]
    constructor
    · rintro ⟨q, member, same⟩
      have equality : q = p := by
        cases q
        cases p
        simpa using same
      rwa [← equality]
    · intro member
      exact ⟨p, member, by simp⟩
  rw [meets, Option.any_eq_true]
  simp only [sameToken]

theorem meets_priorityBelow_iff {bound : Priority} (isBound : c.below = some bound) :
    c.meets chain innermost .priorityBelow = true ↔
      ∃ p, innermost.priority = some p ∧ p.compare bound = .lt := by
  simp [meets, Option.any_eq_true, isBound, Priority.isBelow]

theorem meets_priorityAbove_iff {bound : Priority} (isBound : c.above = some bound) :
    c.meets chain innermost .priorityAbove = true ↔
      ∃ p, innermost.priority = some p ∧ p.compare bound = .gt := by
  simp [meets, Option.any_eq_true, isBound, Priority.isAbove]

theorem meets_schedule_iff {day : Timestamp} (isDay : c.schedule = some day) :
    c.meets chain innermost .schedule = true ↔
      ∃ t, innermost.timestamp = some t ∧ t.fallsOn day = true := by
  simp [meets, Option.any_eq_true, isDay]

theorem accepts_iff_forall : c.accepts chain innermost = true ↔
    ∀ kind, c.has kind = true → c.meets chain innermost kind = true := by
  simp only [accepts, active, List.all_eq_true, List.mem_filter]
  constructor
  · intro accepted kind configured
    exact accepted kind ⟨by cases kind <;> decide, configured⟩
  · intro accepted kind configured
    exact accepted kind configured.2

end Meets

section Hold

variable {c : Criteria} {chain : List Heading} {innermost : Heading}

theorem Hold.of_accepts (accepted : c.accepts chain innermost = true) : c.Hold chain innermost := by
  rw [accepts_iff_forall] at accepted
  constructor
  · intro tag member
    have configured : c.has .tags = true := by simpa [has] using List.ne_nil_of_mem member
    exact (c.meets_tags_iff chain innermost).mp (accepted .tags configured) tag member
  · intro entry member
    have configured : c.has .properties = true := by
      simpa [has] using List.ne_nil_of_mem member
    exact (c.meets_properties_iff chain innermost).mp
      (accepted .properties configured) entry member
  · intro configured
    exact (c.meets_todo_iff chain innermost).mp
      (accepted .todo (by simpa [has] using configured))
  · intro configured
    exact (c.meets_priority_iff chain innermost).mp
      (accepted .priority (by simpa [has] using configured))
  · intro bound isBound
    exact (c.meets_priorityBelow_iff chain innermost isBound).mp
      (accepted .priorityBelow (by simp [has, isBound]))
  · intro bound isBound
    exact (c.meets_priorityAbove_iff chain innermost isBound).mp
      (accepted .priorityAbove (by simp [has, isBound]))
  · intro day isDay
    exact (c.meets_schedule_iff chain innermost isDay).mp
      (accepted .schedule (by simp [has, isDay]))

theorem Hold.accepts (held : c.Hold chain innermost) : c.accepts chain innermost = true := by
  rw [accepts_iff_forall]
  intro kind configured
  cases kind with
  | tags => exact (c.meets_tags_iff chain innermost).mpr held.tagged
  | properties => exact (c.meets_properties_iff chain innermost).mpr held.properties
  | todo =>
      exact (c.meets_todo_iff chain innermost).mpr
        (held.todo (by simpa [has] using configured))
  | priority =>
      exact (c.meets_priority_iff chain innermost).mpr
        (held.priority (by simpa [has] using configured))
  | priorityBelow =>
      obtain ⟨bound, isBound⟩ := Option.isSome_iff_exists.mp configured
      exact (c.meets_priorityBelow_iff chain innermost isBound).mpr
        (held.below bound isBound)
  | priorityAbove =>
      obtain ⟨bound, isBound⟩ := Option.isSome_iff_exists.mp configured
      exact (c.meets_priorityAbove_iff chain innermost isBound).mpr
        (held.above bound isBound)
  | schedule =>
      obtain ⟨day, isDay⟩ := Option.isSome_iff_exists.mp configured
      exact (c.meets_schedule_iff chain innermost isDay).mpr (held.schedule day isDay)

end Hold

theorem accepts_iff (c : Criteria) (chain : List Heading) (innermost : Heading) :
    c.accepts chain innermost = true ↔ c.Hold chain innermost :=
  ⟨Hold.of_accepts, Hold.accepts⟩

instance (c : Criteria) : Decidable c.Unrestricted :=
  decidable_of_iff _ c.active_eq_nil_iff

instance (c : Criteria) (chain : List Heading) (innermost : Heading) :
    Decidable (c.Hold chain innermost) :=
  decidable_of_iff _ (c.accepts_iff chain innermost)

end Criteria

namespace Query

/-- A text that a query admits before any term is scored. -/
structure Admitted (q : Query) (text : Text) : Prop where
  patterns : ∀ pattern ∈ q.patterns, pattern.matchesIn text = true
  required : ∀ word ∈ q.required, word <:+: text
  excluded : ∀ word ∈ q.excluded, ¬word <:+: text

theorem admits_iff (q : Query) (text : Text) : q.admits text = true ↔ q.Admitted text := by
  simp only [admits, Bool.and_eq_true, List.all_eq_true, Bool.not_eq_true',
    List.any_eq_false, Text.hasInfix_iff]
  constructor
  · rintro ⟨⟨patterns, required⟩, excluded⟩
    exact ⟨patterns, required, excluded⟩
  · intro admitted
    exact ⟨⟨admitted.patterns, admitted.required⟩, admitted.excluded⟩

instance (q : Query) (text : Text) : Decidable (q.Admitted text) :=
  decidable_of_iff _ (q.admits_iff text)

end Query

namespace Searcher

variable {σ : Type}

theorem searches_iff (s : Searcher σ) (chain : List Heading) :
    s.searches chain = true ↔ s.criteria.Unrestricted ∨
      ∃ innermost, chain.getLast? = some innermost ∧ s.criteria.Hold chain innermost := by
  rw [searches, Bool.or_eq_true, List.isEmpty_iff, s.criteria.active_eq_nil_iff,
    Option.any_eq_true]
  simp only [s.criteria.accepts_iff]

/-- The chain at an entry: that of all headings up to it. -/
def chainAt (s : Searcher σ) (entries : List Entry) (index : Nat) : List Heading :=
  (s.positionAfter ((entries.take (index + 1)).filterMap (·.heading))).chain

/-- A text in which a fuzzy term is found, if the query has any. -/
def FindsTerm (s : Searcher σ) (text : Text) : Prop :=
  s.query.fuzzy = [] ∨ ∃ term ∈ s.query.fuzzy, (s.scorer text term).isSome = true

instance (s : Searcher σ) (text : Text) : Decidable (s.FindsTerm text) :=
  inferInstanceAs (Decidable (s.query.fuzzy = [] ∨
    ∃ term ∈ s.query.fuzzy, (s.scorer text term).isSome = true))

/-- Where a line is reported: its section is searched, the query admits its text, and a fuzzy
term is found in it. -/
structure Reports (s : Searcher σ) (chain : List Heading) (e : Entry) : Prop where
  inSection : s.criteria.Unrestricted ∨
    ∃ innermost, chain.getLast? = some innermost ∧ s.criteria.Hold chain innermost
  admitted : s.query.Admitted (s.searchText chain e.text e.isHeading)
  scored : s.FindsTerm (s.searchText chain e.text e.isHeading)

theorem reports_iff (s : Searcher σ) (chain : List Heading) (e : Entry) :
    (s.searches chain = true ∧ s.query.Admitted (s.searchText chain e.text e.isHeading) ∧
      s.FindsTerm (s.searchText chain e.text e.isHeading)) ↔ s.Reports chain e := by
  rw [s.searches_iff chain]
  constructor
  · rintro ⟨inSection, admitted, scored⟩
    exact ⟨inSection, admitted, scored⟩
  · intro reports
    exact ⟨reports.inSection, reports.admitted, reports.scored⟩

instance (s : Searcher σ) (chain : List Heading) (e : Entry) :
    Decidable (s.Reports chain e) :=
  decidable_of_iff _ (s.reports_iff chain e)

theorem findsTerm_iff (s : Searcher σ) (text : Text) :
    s.FindsTerm text ↔
      s.query.fuzzy = [] ∨ s.query.fuzzy.filterMap (s.scorer text) ≠ [] := by
  have points : s.query.fuzzy.filterMap (s.scorer text) ≠ [] ↔
      ∃ term ∈ s.query.fuzzy, (s.scorer text term).isSome = true := by
    rw [Ne, List.filterMap_eq_nil_iff]
    constructor
    · intro found
      by_contra unfound
      apply found
      intro term member
      by_contra isFound
      exact unfound ⟨term, member, Option.isSome_iff_ne_none.mpr isFound⟩
    · rintro ⟨term, member, found⟩ unfound
      rw [unfound term member] at found
      cases found
  rw [FindsTerm, points]

/-- What comes of a search with these hits: the path has to be one that can be reported if
there are any. -/
def reported (s : Searcher σ) (hits : List (Hit σ)) : Checked (List (Hit σ)) :=
  if hits.isEmpty then .passed [] else (fun _ => hits) <$> s.checkedPath

/-- A position that is reached behind lines with these headings. -/
structure Behind (s : Searcher σ) (headings : List Heading) (p : Position) : Prop where
  chain : p.chain = (s.positionAfter headings).chain
  depth : p.depth = (s.positionAfter headings).depth
  /-- Above the first heading, and only there, criteria may still have to be looked at. -/
  steady : p.depth ≠ 0 ∨ s.criteria.active = [] → p.skipping = !s.searches p.chain

theorem behind_start (s : Searcher σ) : s.Behind [] .start := by
  refine ⟨rfl, rfl, ?_⟩
  rintro (inside | unrestricted)
  · exact (inside rfl).elim
  · simp [Position.start, searches, unrestricted]

/-- A line that is no heading stands in the same section, which above the first heading may turn
out not to be searched. -/
theorem Behind.advance_line {s : Searcher σ} {headings : List Heading} {p : Position} {e : Entry}
    (behind : s.Behind headings p) (layered : p.Layered)
    (noHeading : e.heading = none) :
    s.Behind headings (s.advance p e) ∧
      (s.advance p e).skipping = !s.searches (s.advance p e).chain := by
  by_cases above : p.depth = 0 ∧ s.criteria.active ≠ []
  · have empty : p.chain = [] := by
      have short := layered.length_le_depth
      exact List.length_eq_zero_iff.mp (by omega)
    have closed : s.searches p.chain = false := by
      simp [searches, empty, above.2]
    have advanced : s.advance p e = { p with skipping := true } := by
      simp [Searcher.advance, noHeading, above]
    rw [advanced]
    exact ⟨⟨behind.chain, behind.depth, fun _ => by simp [closed]⟩, by simp [closed]⟩
  · have decided : p.depth ≠ 0 ∨ s.criteria.active = [] := by
      by_cases inside : p.depth = 0
      · exact .inr (by simpa [inside] using above)
      · exact .inl inside
    have advanced : s.advance p e = p := by
      rcases decided with inside | unrestricted
      · simp [Searcher.advance, noHeading, inside]
      · simp [Searcher.advance, noHeading, unrestricted]
    rw [advanced]
    exact ⟨behind, behind.steady decided⟩

/-- One entry leads to a position that tells rightly whether its section is searched. -/
theorem Behind.advance {s : Searcher σ} {headings : List Heading} {p : Position} {e : Entry}
    (behind : s.Behind headings p)
    (positive : ∀ h ∈ headings ++ e.heading.toList, 1 ≤ h.depth) :
    s.Behind (headings ++ e.heading.toList) (s.advance p e) ∧
      (s.advance p e).skipping = !s.searches (s.advance p e).chain := by
  rw [List.forall_mem_append] at positive
  have layered := s.layered_positionAfter positive.1
  have layeredHere := layered.congr behind.chain behind.depth
  cases isHeading : e.heading with
  | none =>
      rw [Option.toList_none, List.append_nil]
      exact behind.advance_line layeredHere isHeading
  | some h =>
      have last : 1 ≤ h.depth := positive.2 h (by simp [isHeading])
      have shape := s.enter_eq layeredHere last
      have entered : s.enter h p = s.positionAfter (headings ++ [h]) := by
        rw [positionAfter_concat]
        exact s.enter_congr layered last behind.chain behind.depth
      have advanced : s.advance p e = s.enter h p := by
        have inside : (s.enter h p).depth ≠ 0 := by
          rw [shape]
          exact Nat.ne_of_gt last
        simp [Searcher.advance, isHeading, inside]
      have steady : (s.enter h p).skipping = !s.searches (s.enter h p).chain := by
        rw [shape]
      rw [advanced, Option.toList_some]
      exact ⟨⟨by rw [entered], by rw [entered], fun _ => steady⟩, steady⟩

theorem reported_cons (s : Searcher σ) (hit : Hit σ) (hits : List (Hit σ)) :
    s.reported (hit :: hits) =
      match s.checkedPath with
      | .failed problems => .failed problems
      | .passed _ => (hit :: ·) <$> s.reported hits := by
  cases path : s.checkedPath with
  | failed problems => simp [reported, path, Functor.map]
  | passed _ => cases hits <;> simp [reported, path, Functor.map]

variable [Zero σ] [Add σ]

/-- The hit that a line is where it is reported. -/
def hitOn (s : Searcher σ) (chain : List Heading) (e : Entry) : Hit σ where
  score := (s.query.fuzzy.filterMap
    (s.scorer (s.searchText chain e.text e.isHeading))).foldl (· + ·) 0
  line := e.number
  path := s.path
  titles := chain.map (·.title)
  content := if e.isHeading && s.matching.omitHeadings then [] else e.text
  isHeading := e.isHeading

/-- The judgement on a line. -/
def judge? (s : Searcher σ) (chain : List Heading) (e : Entry) : Option (Hit σ) :=
  if s.Reports chain e then some (s.hitOn chain e) else none

theorem judge?_eq_some_iff (s : Searcher σ) {chain : List Heading} {e : Entry} {h : Hit σ} :
    s.judge? chain e = some h ↔ s.Reports chain e ∧ s.hitOn chain e = h := by
  unfold judge?
  split
  · rename_i reports
    simp [reports]
  · rename_i hidden
    simp [hidden]

/-- The judgements on all lines of a document, each by the chain at it. -/
def judged (s : Searcher σ) (lines : List Text) : List (Hit σ) :=
  let entries := entriesOf s.kind lines
  entries.zipIdx.filterMap fun entry => s.judge? (s.chainAt entries entry.2) entry.1

theorem score?_eq (s : Searcher σ) (text : Text) :
    s.score? text =
      if s.FindsTerm text then
        some ((s.query.fuzzy.filterMap (s.scorer text)).foldl (· + ·) 0)
      else none := by
  have found := s.findsTerm_iff text
  unfold score?
  by_cases noTerms : s.query.fuzzy = []
  · rw [if_pos (found.mpr (.inl noTerms))]
    simp [noTerms]
  · by_cases noPoints : s.query.fuzzy.filterMap (s.scorer text) = []
    · have unfound : ¬s.FindsTerm text := by
        rw [found]
        simp [noTerms, noPoints]
      rw [if_neg unfound]
      simp [noTerms, noPoints]
    · rw [if_pos (found.mpr (.inr noPoints))]
      simp [noPoints]

/-- At a position that tells rightly whether its section is searched, a line is judged. -/
theorem hitAt?_eq_judge? (s : Searcher σ) (e : Entry) {p : Position}
    (steady : p.skipping = !s.searches p.chain) :
    s.hitAt? e p = s.judge? p.chain e := by
  have admitted := s.query.admits_iff (s.searchText p.chain e.text e.isHeading)
  have reports := s.reports_iff p.chain e
  unfold hitAt? judge? hit?
  simp only [steady, s.score?_eq, ← reports, ← admitted]
  cases s.searches p.chain with
  | false => simp
  | true =>
      cases s.query.admits (s.searchText p.chain e.text e.isHeading) with
      | false => simp
      | true =>
          by_cases found : s.FindsTerm (s.searchText p.chain e.text e.isHeading)
          · simp [found, hitOn]
          · simp [found]

/-- A search of the remaining entries reports what is judged on each of them. -/
theorem scan_eq_reported (s : Searcher σ) (read rest : List Entry) {p : Position}
    (behind : s.Behind (read.filterMap (·.heading)) p)
    (positive : ∀ e ∈ read ++ rest, ∀ h, e.heading = some h → 1 ≤ h.depth) :
    (s.scan p rest).1 = s.reported ((rest.zipIdx read.length).filterMap
      fun entry => s.judge? (s.chainAt (read ++ rest) entry.2) entry.1) := by
  induction rest generalizing read p with
  | nil => rfl
  | cons e rest induction =>
      have headings : read.filterMap (·.heading) ++ e.heading.toList =
          (read ++ [e]).filterMap (·.heading) := by
        cases isHeading : e.heading <;> simp [isHeading]
      have headingsPositive : ∀ h ∈ read.filterMap (·.heading) ++ e.heading.toList,
          1 ≤ h.depth := by
        intro h member
        rw [headings] at member
        obtain ⟨e', isRead, isHeading⟩ := List.mem_filterMap.mp member
        refine positive e' ?_ h isHeading
        rcases List.mem_append.mp isRead with inRead | isThis
        · simp [inRead]
        · simp [List.mem_singleton.mp isThis]
      obtain ⟨next, steady⟩ := behind.advance headingsPositive
      rw [headings] at next
      have readNow : (read ++ e :: rest).take (read.length + 1) = read ++ [e] := by
        simp [List.take_append]
      have chain : s.chainAt (read ++ e :: rest) read.length = (s.advance p e).chain := by
        rw [chainAt, readNow, next.chain]
      have later := induction (read ++ [e]) next (by simpa using positive)
      rw [List.append_assoc, List.singleton_append, List.length_append,
        List.length_singleton] at later
      simp only [List.zipIdx_cons, List.filterMap_cons, chain, ← s.hitAt?_eq_judge? e steady,
        scan]
      cases s.hitAt? e (s.advance p e) with
      | none => exact later
      | some hit =>
          simp only [reported_cons]
          cases s.checkedPath with
          | failed problems => rfl
          | passed _ => simp only [later]

theorem search_eq_reported (s : Searcher σ) (lines : List Text) :
    s.search lines = s.reported (s.judged lines) := by
  refine s.scan_eq_reported [] (entriesOf s.kind lines) s.behind_start ?_
  intro e member h isHeading
  exact depth_pos_of_mem_entriesOf (by simpa using member) isHeading

/-- A search reports what is judged on each line by itself, wherever an earlier search has
left off. -/
theorem searchFrom_eq_judged (s : Searcher σ) (p : Position) (lines : List Text) :
    (s.searchFrom p lines).1 = s.reported (s.judged lines) := by
  have fromStart : (s.searchFrom p lines).1 = s.search lines := rfl
  rw [fromStart, search_eq_reported]

end Searcher

end OutlineSearch
