import OutlineSearch.Proofs.Judgement
import OutlineSearch.Proofs.Records

/-!
# Every line once

A query that asks for nothing, without criteria, finds all of a document: each line is
reported once, in order, unless it is metadata of a heading.  So no heading and no line of a
body gets lost in the metadata before it.
-/

namespace OutlineSearch

namespace Searcher

variable {σ : Type} {s : Searcher σ}

theorem checkedPath_of_not_blank (pathText : s.path.isAllBlank = false) :
    s.checkedPath = .passed s.path := by
  simp [checkedPath, Hit.checkPath_text pathText]

theorem reported_of_not_blank (pathText : s.path.isAllBlank = false) (hits : List (Hit σ)) :
    s.reported hits = .passed hits := by
  rw [reported, checkedPath_of_not_blank pathText]
  cases hits <;> rfl

/-- A hit shows the line of a document that it names. -/
def Shows (s : Searcher σ) (texts : List Text) (hit : Hit σ) : Prop :=
  ∃ index line, hit.line = index + 1 ∧ texts[index]? = some line ∧
    hit.content = (if hit.isHeading && s.matching.omitHeadings then [] else line) ∧
    (hit.isHeading = true ↔ Marked s.kind line)

/-- Hits that account for the lines of a document: the lines without those that are metadata
of a heading, in order. -/
structure AccountsFor (s : Searcher σ) (texts : List Text) (hits : List (Hit σ)) : Prop where
  increasing : (hits.map (·.line)).Pairwise (· < ·)
  complete : ∀ index, index < texts.length →
    ((∃ hit ∈ hits, hit.line = index + 1) ↔ ¬IsMetadata s.kind texts index)
  shown : ∀ hit ∈ hits, s.Shows texts hit
  headings : ∀ index line, texts[index]? = some line → Marked s.kind line →
    ∃ hit ∈ hits, hit.line = index + 1 ∧ hit.isHeading = true

theorem accountsFor_of_lines {texts : List Text} {hits : List (Hit σ)}
    (lines : hits.map (·.line) = (bodyFrom s.kind texts 0).map (· + 1))
    (shown : ∀ hit ∈ hits, s.Shows texts hit) : s.AccountsFor texts hits := by
  have complete : ∀ index, index < texts.length →
      ((∃ hit ∈ hits, hit.line = index + 1) ↔ ¬IsMetadata s.kind texts index) := by
    intro index inRange
    rw [← List.mem_map, lines, List.mem_map]
    constructor
    · rintro ⟨place, member, samePlace⟩
      obtain rfl : place = index := Nat.succ.inj samePlace
      exact (mem_bodyFrom_zero.mp member).2
    · intro body
      exact ⟨index, mem_bodyFrom_zero.mpr ⟨inRange, body⟩, rfl⟩
  refine ⟨?_, complete, shown, ?_⟩
  · rw [lines, List.pairwise_map]
    exact (bodyFrom_increasing s.kind texts 0).imp Nat.succ_lt_succ
  · intro index line found marked
    have inRange : index < texts.length := (List.getElem?_eq_some_iff.mp found).1
    have body : ¬IsMetadata s.kind texts index :=
      fun metadata => metadata.not_marked found marked
    obtain ⟨hit, member, number⟩ := (complete index inRange).mpr body
    obtain ⟨place, here, placed, standing, -, isHeading⟩ := shown hit member
    have samePlace : place = index := by omega
    rw [samePlace, found] at standing
    obtain rfl : line = here := Option.some.inj standing
    exact ⟨hit, member, number, isHeading.mpr marked⟩

theorem reports_of_isEmpty (asksNothing : s.query.isEmpty = true)
    (unrestricted : s.criteria.Unrestricted) (chain : List Heading) (e : Entry) :
    s.Reports chain e := by
  simp only [Query.isEmpty, Bool.and_eq_true, List.isEmpty_iff] at asksNothing
  obtain ⟨⟨⟨required, excluded⟩, patterns⟩, fuzzy⟩ := asksNothing
  constructor
  · exact .inl unrestricted
  · constructor
    · simp [patterns]
    · simp [required]
    · simp [excluded]
  · exact .inl fuzzy

variable [Zero σ] [Add σ]

theorem judged_of_isEmpty (asksNothing : s.query.isEmpty = true)
    (unrestricted : s.criteria.Unrestricted) (lines : List Text) :
    s.judged lines = (entriesOf s.kind lines).zipIdx.map
      fun entry => s.hitOn (s.chainAt (entriesOf s.kind lines) entry.2) entry.1 := by
  rw [judged, ← List.filterMap_eq_map]
  apply List.filterMap_congr
  intro entry _
  exact if_pos (reports_of_isEmpty asksNothing unrestricted _ _)

theorem shows_hitOn {texts : List Text} {index : Nat} {line : Text}
    (found : texts[index]? = some line) (chain : List Heading) :
    s.Shows texts (s.hitOn chain (entryAt s.kind texts index)) := by
  refine ⟨index, line, rfl, found, ?_, isHeading_entryAt found⟩
  simp [hitOn, entryAt, found]

/-- Hits on all entries, each with some chain, account for the lines. -/
theorem accountsFor_hitOn (s : Searcher σ) (lines : List Text) (chain : Nat → List Heading) :
    s.AccountsFor (lines.map Text.chomp)
      ((entriesOf s.kind lines).zipIdx.map fun entry => s.hitOn (chain entry.2) entry.1) := by
  rw [entriesOf_eq_map]
  generalize lines.map Text.chomp = texts
  apply accountsFor_of_lines
  · generalize collected : (bodyFrom s.kind texts 0).map (entryAt s.kind texts) = entries
    calc
      _ = (entries.zipIdx.map Prod.fst).map (·.number) := by
        rw [List.map_map, List.map_map]
        rfl
      _ = (bodyFrom s.kind texts 0).map (· + 1) := by
        rw [List.zipIdx_map_fst, ← collected, List.map_map]
        rfl
  · intro hit member
    obtain ⟨⟨e, place⟩, isEntry, rfl⟩ := List.mem_map.mp member
    obtain ⟨index, inBody, rfl⟩ := List.mem_map.mp (List.fst_mem_of_mem_zipIdx isEntry)
    exact shows_hitOn (List.getElem?_eq_getElem (mem_bodyFrom_zero.mp inBody).1) _

/-- A search for nothing accounts for every line, and reports what it has found unless the
document has no path to report. -/
theorem search_accountsFor_lines (s : Searcher σ) (asksNothing : s.query.isEmpty = true)
    (unrestricted : s.criteria.Unrestricted) (lines : List Text) :
    ∃ hits, s.AccountsFor (lines.map Text.chomp) hits ∧ s.search lines = s.reported hits ∧
      (s.path.isAllBlank = false → s.search lines = .passed hits) := by
  refine ⟨s.judged lines, ?_, s.search_eq_reported lines, ?_⟩
  · rw [judged_of_isEmpty asksNothing unrestricted]
    exact s.accountsFor_hitOn lines (s.chainAt (entriesOf s.kind lines))
  · intro pathText
    rw [search_eq_reported, reported_of_not_blank pathText]

/-- A drawer that is not closed ends before the next heading. -/
theorem search_accountsFor_open_drawer :
    let s : Searcher Binary64 := { query := .empty, scorer := fun _ _ => none }
    let lines := ["* one\r\n", "SCHEDULED: <2024-01-01>\n", ":PROPERTIES:\n", ":key: value\n",
      "* two\n", "text"].map String.toList
    s.query.isEmpty = true ∧ s.criteria.Unrestricted ∧
      ∃ hits, s.AccountsFor (lines.map Text.chomp) hits ∧ s.search lines = .passed hits ∧
        hits.map (fun hit => (hit.line, hit.content, hit.isHeading)) =
          [(1, "* one".toList, true), (5, "* two".toList, true), (6, "text".toList, false)] := by
  intro s lines
  have asksNothing : s.query.isEmpty = true := rfl
  have unrestricted : s.criteria.Unrestricted := by decide
  obtain ⟨hits, accounts, -, passed⟩ := s.search_accountsFor_lines asksNothing unrestricted lines
  have search : s.search lines = .passed hits := passed (by decide +kernel)
  have found : (s.search lines).toExcept.toOption.map
      (·.map fun hit => (hit.line, hit.content, hit.isHeading)) =
        some [(1, "* one".toList, true), (5, "* two".toList, true),
          (6, "text".toList, false)] := by decide +kernel
  rw [search] at found
  exact ⟨asksNothing, unrestricted, hits, accounts, search, Option.some.inj found⟩

end Searcher

end OutlineSearch
