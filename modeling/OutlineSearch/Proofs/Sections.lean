import OutlineSearch.Proofs.Judgement

/-!
# Sections of depth one

A heading of depth one closes every heading before it, and no line before it can take it for
metadata.  So a document that goes on with such a heading is searched as two documents: what
stands in the first part makes no difference to the second, whose lines only have higher
numbers.
-/

namespace OutlineSearch

/-- A line begins with a single marker followed by a space. -/
def OpensSection (kind : OutlineKind) (line : Text) : Prop := [kind.marker, ' '] <+: line

namespace OpensSection

variable {kind : OutlineKind} {line : Text}

theorem marked (opens : OpensSection kind line) : Marked kind line :=
  ⟨1, Nat.le_refl 1, opens⟩

theorem chomp (opens : OpensSection kind line) : OpensSection kind (Text.chomp line) := by
  obtain ⟨rest, rfl⟩ := opens
  have kept : Text.chomp ([kind.marker, ' '] ++ rest) =
      [kind.marker, ' '] ++ Text.chomp rest := by
    have last : ([kind.marker, ' '].reverse.dropWhile fun c => c == '\r' || c == '\n') =
        [kind.marker, ' '].reverse := by
      cases kind <;> rfl
    rw [Text.chomp, Text.dropRightWhile, List.reverse_append, List.dropWhile_append]
    split
    · rename_i onlyTerminators
      rw [List.isEmpty_iff] at onlyTerminators
      rw [last, List.reverse_reverse, Text.chomp, Text.dropRightWhile, onlyTerminators,
        List.reverse_nil, List.append_nil]
    · rw [List.reverse_append, List.reverse_reverse]
      rfl
  rw [kept]
  exact List.prefix_append _ _

theorem depth_eq_one (opens : OpensSection kind line) {number : Nat} {heading : Heading}
    (read : Heading.ofLine? kind number line = some heading) : heading.depth = 1 := by
  obtain ⟨rest, rfl⟩ := opens
  obtain ⟨-, -, depth⟩ := Heading.markers_of_ofLine? read
  have markers := (replicate_marker_eq_takeWhile kind 1 rest).1
  rw [depth]
  exact congrArg List.length markers

end OpensSection

namespace Metadata

section BeforeHeading

variable {kind : OutlineKind} {first : Text} (marked : Marked kind first) (more : List Text)
include marked

theorem timestampSize_append (lines : List Text) :
    timestampSize (lines ++ first :: more) = timestampSize lines := by
  cases lines with
  | nil => simp [timestampSize, marked.not_labelled]
  | cons line rest => rfl

theorem timestamp_append (lines : List Text) :
    timestamp (lines ++ first :: more) = timestamp lines := by
  rw [timestamp, timestamp, timestampSize_append marked more,
    List.take_append_of_le_length (timestampSize_le_length lines)]

theorem bodySize_append (lines : List Text) :
    bodySize (lines ++ first :: more) = bodySize lines := by
  induction lines with
  | nil => exact bodySize_of_neither marked.not_isEntry marked.not_closesDrawer more
  | cons line rest induction =>
      rw [List.cons_append]
      by_cases entry : Property.isEntry line = true
      · rw [bodySize_of_entry entry, bodySize_of_entry entry, induction]
      · by_cases closes : Property.closesDrawer line = true
        · rw [bodySize_of_closes closes, bodySize_of_closes closes]
        · have noEntry : Property.isEntry line = false := by simpa using entry
          have notClosing : Property.closesDrawer line = false := by simpa using closes
          rw [bodySize_of_neither noEntry notClosing, bodySize_of_neither noEntry notClosing]

theorem drawerSize_append (lines : List Text) :
    drawerSize (lines ++ first :: more) = drawerSize lines := by
  cases lines with
  | nil => simp [drawerSize, marked.not_opensDrawer]
  | cons opener rest =>
      rw [List.cons_append, drawerSize, drawerSize, bodySize_append marked more rest]

theorem properties_append (lines : List Text) :
    properties (lines ++ first :: more) = properties lines := by
  cases lines with
  | nil => simp [properties, marked.not_opensDrawer]
  | cons opener rest =>
      have entries : (rest ++ first :: more).takeWhile Property.isEntry =
          rest.takeWhile Property.isEntry := by
        rw [List.takeWhile_append]
        split
        · rename_i allEntries
          rw [List.takeWhile_cons_of_neg (by simp [marked.not_isEntry]), List.append_nil]
          exact ((List.takeWhile_prefix _).eq_of_length allEntries).symm
        · rfl
      rw [List.cons_append, properties, properties, entries]

/-- Metadata ends before the next heading, whatever stands behind that. -/
theorem size_append (lines : List Text) :
    size (lines ++ first :: more) = size lines := by
  rw [size, size, timestampSize_append marked more,
    List.drop_append_of_le_length (timestampSize_le_length lines),
    drawerSize_append marked more]

theorem extent_append (line : Text) (lines : List Text) :
    extent kind line (lines ++ first :: more) = extent kind line lines := by
  rw [extent, extent, size_append marked more]

theorem withMetadata?_append (number : Nat) (line : Text) (lines : List Text) :
    Heading.withMetadata? kind number line (lines ++ first :: more) =
      Heading.withMetadata? kind number line lines := by
  rw [Heading.withMetadata?, Heading.withMetadata?, timestamp_append marked more,
    timestampSize_append marked more,
    List.drop_append_of_le_length (timestampSize_le_length lines),
    properties_append marked more]

end BeforeHeading

end Metadata

/-- A document is cut in two before a heading. -/
theorem entriesFrom_append {kind : OutlineKind} {first : Text} (marked : Marked kind first)
    (more : List Text) (number : Nat) (lines : List Text) :
    entriesFrom kind number (lines ++ first :: more) =
      entriesFrom kind number lines ++
        entriesFrom kind (number + lines.length) (first :: more) := by
  fun_induction entriesFrom kind number lines with
  | case1 number => rfl
  | case2 number line rest induction =>
      have bound := Metadata.extent_le_length kind line rest
      have behind : number + 1 + Metadata.extent kind line rest +
          (rest.drop (Metadata.extent kind line rest)).length =
            number + (line :: rest).length := by
        rw [List.length_drop, List.length_cons]
        omega
      rw [List.cons_append, entriesFrom, Metadata.extent_append marked more,
        Metadata.withMetadata?_append marked more, List.drop_append_of_le_length bound,
        induction, behind, List.cons_append]

/-! ## The same headings, entries and hits further down -/

/-- The same heading, `count` lines further down. -/
def Heading.moved (count : Nat) (h : Heading) : Heading := { h with line := h.line + count }

/-- The same entry, `count` lines further down. -/
def Entry.moved (count : Nat) (e : Entry) : Entry :=
  { e with number := e.number + count, heading := e.heading.map (Heading.moved count) }

/-- The same hit, `count` lines further down. -/
def Hit.moved {σ : Type} (count : Nat) (hit : Hit σ) : Hit σ :=
  { hit with line := hit.line + count }

theorem Heading.ofLine?_moved (kind : OutlineKind) (number count : Nat) (line : Text) :
    ofLine? kind (number + count) line = (ofLine? kind number line).map (moved count) := by
  unfold ofLine?
  split
  · by_cases noMarkers : (line.takeWhile (· == kind.marker)).isEmpty = true
    · simp only [noMarkers, if_true, Option.map_none]
    · simp only [noMarkers, Bool.false_eq_true, if_false, Option.map_some, moved]
  · rfl

theorem Heading.withMetadata?_moved (kind : OutlineKind) (number count : Nat) (line : Text)
    (rest : List Text) :
    withMetadata? kind (number + count) line rest =
      (withMetadata? kind number line rest).map (moved count) := by
  rw [withMetadata?, withMetadata?, ofLine?_moved, Option.map_map, Option.map_map]
  rfl

theorem entriesFrom_moved (kind : OutlineKind) (number count : Nat) (lines : List Text) :
    entriesFrom kind (number + count) lines =
      (entriesFrom kind number lines).map (Entry.moved count) := by
  fun_induction entriesFrom kind number lines with
  | case1 number => rw [entriesFrom, List.map_nil]
  | case2 number line rest induction =>
      have next : number + count + 1 = number + 1 + count := by omega
      have behind : number + count + 1 + Metadata.extent kind line rest =
          number + 1 + Metadata.extent kind line rest + count := by omega
      rw [entriesFrom, behind, induction, List.map_cons, next, Heading.withMetadata?_moved]
      rfl

theorem entriesOf_append {kind : OutlineKind} {first : Text} (opens : OpensSection kind first)
    (before more : List Text) :
    entriesOf kind (before ++ first :: more) =
      entriesOf kind before ++
        (entriesOf kind (first :: more)).map (Entry.moved before.length) := by
  rw [entriesOf_eq, entriesOf_eq, entriesOf_eq, List.map_append, List.map_cons,
    entriesFrom_append opens.chomp.marked, List.length_map, entriesFrom_moved]

/-- The first entry of a section is a heading of depth one. -/
theorem exists_heading_of_opensSection {kind : OutlineKind} {first : Text}
    (opens : OpensSection kind first) (more : List Text) :
    ∃ e rest, entriesOf kind (first :: more) = e :: rest ∧
      ∃ heading, e.heading = some heading ∧ heading.depth = 1 := by
  rw [entriesOf_eq, List.map_cons, entriesFrom]
  refine ⟨_, _, rfl, ?_⟩
  have isHeading := (Heading.isSome_withMetadata?_iff kind 1 (Text.chomp first)
    (more.map Text.chomp)).mpr opens.chomp.marked
  obtain ⟨heading, read⟩ := Option.isSome_iff_exists.mp isHeading
  refine ⟨heading, read, ?_⟩
  rw [Heading.withMetadata?, Option.map_eq_some_iff] at read
  obtain ⟨plain, ofLine, rfl⟩ := read
  have outermost : plain.depth = 1 := opens.chomp.depth_eq_one ofLine
  exact outermost

/-! ## The chain -/

namespace Position

/-- The same position, `count` lines further down. -/
def moved (count : Nat) (p : Position) : Position :=
  { p with chain := p.chain.map (Heading.moved count) }

theorem kept_moved (count : Nat) (p : Position) (h : Heading) :
    (p.moved count).kept (h.moved count) = p.kept h := by
  simp [kept, moved, Heading.moved]

/-- Above a heading of depth one nothing stays. -/
theorem Layered.kept_eq_zero {p : Position} {h : Heading} (layered : p.Layered)
    (outermost : h.depth = 1) : p.kept h = 0 := by
  have below := layered.kept_lt_depth (h := h) (by omega)
  omega

end Position

theorem Criteria.meets_moved (c : Criteria) (count : Nat) (chain : List Heading)
    (innermost : Heading) (kind : Filter) :
    c.meets (chain.map (Heading.moved count)) (innermost.moved count) kind =
      c.meets chain innermost kind := by
  cases kind with
  | tags =>
      simp only [meets, List.any_map]
      rfl
  | properties =>
      simp only [meets, List.any_map]
      rfl
  | todo => rfl
  | priority => rfl
  | priorityBelow => rfl
  | priorityAbove => rfl
  | schedule => rfl

namespace Searcher

variable {σ : Type}

theorem searches_moved (s : Searcher σ) (count : Nat) (chain : List Heading) :
    s.searches (chain.map (Heading.moved count)) = s.searches chain := by
  cases last : chain.getLast? with
  | none => simp [searches, last]
  | some innermost =>
      have accepted : s.criteria.accepts (chain.map (Heading.moved count))
          (innermost.moved count) = s.criteria.accepts chain innermost := by
        unfold Criteria.accepts
        congr 1
        funext kind
        exact s.criteria.meets_moved count chain innermost kind
      simp [searches, last, accepted]

theorem positionAfter_moved (s : Searcher σ) (count : Nat) {headings : List Heading}
    (positive : ∀ h ∈ headings, 1 ≤ h.depth) :
    s.positionAfter (headings.map (Heading.moved count)) =
      (s.positionAfter headings).moved count := by
  induction headings using List.reverseRecOn with
  | nil => rfl
  | append_singleton headings h induction =>
      rw [List.forall_mem_append, List.forall_mem_singleton] at positive
      obtain ⟨earlier, last⟩ := positive
      have layered := s.layered_positionAfter earlier
      have earlierMoved : ∀ h ∈ headings.map (Heading.moved count), 1 ≤ h.depth := by
        intro heading member
        obtain ⟨original, inHeadings, rfl⟩ := List.mem_map.mp member
        exact earlier original inHeadings
      have layeredMoved := s.layered_positionAfter earlierMoved
      have lastMoved : 1 ≤ (h.moved count).depth := last
      rw [induction earlier] at layeredMoved
      rw [List.map_append, List.map_singleton, positionAfter_concat, positionAfter_concat,
        induction earlier, s.enter_eq layeredMoved lastMoved, s.enter_eq layered last,
        Position.kept_moved]
      have chain : ((s.positionAfter headings).moved count).chain.take
            ((s.positionAfter headings).kept h) ++ [h.moved count] =
          ((s.positionAfter headings).chain.take ((s.positionAfter headings).kept h) ++
            [h]).map (Heading.moved count) := by
        simp [Position.moved, List.map_take]
      rw [chain, searches_moved]
      rfl

/-- Behind a heading of depth one it makes no difference which headings came before. -/
theorem positionAfter_append_of_depth_one (s : Searcher σ) {earlier later : List Heading}
    {h : Heading} (positive : ∀ heading ∈ earlier, 1 ≤ heading.depth)
    (outermost : h.depth = 1) :
    s.positionAfter (earlier ++ h :: later) = s.positionAfter (h :: later) := by
  have first : 1 ≤ h.depth := by omega
  have layered := s.layered_positionAfter positive
  have begun : s.enter h (s.positionAfter earlier) = s.enter h .start := by
    rw [s.enter_eq layered first, s.enter_eq Position.layered_start first,
      layered.kept_eq_zero outermost, Position.layered_start.kept_eq_zero outermost]
    rfl
  calc
    s.positionAfter (earlier ++ h :: later) =
        later.foldl (fun p h => s.enter h p) (s.enter h (s.positionAfter earlier)) := by
      simp [positionAfter]
    _ = s.positionAfter (h :: later) := by
      rw [begun]
      rfl

end Searcher

theorem filterMap_heading_moved {count : Nat} (entries : List Entry) :
    (entries.map (Entry.moved count)).filterMap (·.heading) =
      (entries.filterMap (·.heading)).map (Heading.moved count) := by
  rw [List.filterMap_map, List.map_filterMap]
  rfl

namespace Searcher

variable {σ : Type}

theorem chainAt_append_left (s : Searcher σ) {before behind : List Entry} {index : Nat}
    (inBefore : index < before.length) :
    s.chainAt (before ++ behind) index = s.chainAt before index := by
  rw [chainAt, chainAt, List.take_append_of_le_length (by omega)]

theorem chainAt_append_right (s : Searcher σ) {before behind : List Entry} {e : Entry}
    {heading : Heading} (isHeading : e.heading = some heading) (outermost : heading.depth = 1)
    (positive : ∀ h ∈ before.filterMap (·.heading), 1 ≤ h.depth) (index : Nat) :
    s.chainAt (before ++ e :: behind) (before.length + index) =
      s.chainAt (e :: behind) index := by
  have taken : (before ++ e :: behind).take (before.length + index + 1) =
      before ++ (e :: behind).take (index + 1) := by
    rw [Nat.add_assoc, List.take_length_add_append]
  rw [chainAt, chainAt, taken, List.filterMap_append, List.take_succ_cons,
    List.filterMap_cons_some isHeading, s.positionAfter_append_of_depth_one positive outermost]

theorem chainAt_moved (s : Searcher σ) (count : Nat) {entries : List Entry}
    (positive : ∀ h ∈ entries.filterMap (·.heading), 1 ≤ h.depth) (index : Nat) :
    s.chainAt (entries.map (Entry.moved count)) index =
      (s.chainAt entries index).map (Heading.moved count) := by
  have positiveTaken : ∀ h ∈ (entries.take (index + 1)).filterMap (·.heading),
      1 ≤ h.depth := by
    intro h member
    exact positive h (((List.take_sublist _ _).filterMap _).subset member)
  rw [chainAt, chainAt, ← List.map_take, filterMap_heading_moved,
    s.positionAfter_moved count positiveTaken]
  rfl

theorem searchText_moved (s : Searcher σ) (count : Nat) (chain : List Heading) (line : Text)
    (isHeading : Bool) :
    s.searchText (chain.map (Heading.moved count)) line isHeading =
      s.searchText chain line isHeading := by
  unfold searchText
  rw [List.map_map]
  rfl

theorem reported_append (s : Searcher σ) (before behind : List (Hit σ)) :
    s.reported (before ++ behind) =
      (s.reported before).andThen fun first => (first ++ ·) <$> s.reported behind := by
  cases path : s.checkedPath with
  | failed problems =>
      cases before with
      | nil =>
          rw [List.nil_append, reported]
          cases behind <;> simp [reported, path, Checked.andThen, Functor.map]
      | cons hit before => simp [reported, path, Checked.andThen, Functor.map]
  | passed _ =>
      cases before <;> cases behind <;> simp [reported, path, Checked.andThen, Functor.map]

theorem reported_moved (s : Searcher σ) (count : Nat) (hits : List (Hit σ)) :
    s.reported (hits.map (Hit.moved count)) =
      (·.map (Hit.moved count)) <$> s.reported hits := by
  cases path : s.checkedPath <;> cases hits <;> simp [reported, path, Functor.map]

variable [Zero σ] [Add σ]

theorem judge?_moved (s : Searcher σ) (count : Nat) (chain : List Heading) (e : Entry) :
    s.judge? (chain.map (Heading.moved count)) (e.moved count) =
      (s.judge? chain e).map (Hit.moved count) := by
  have isHeading : (e.moved count).isHeading = e.isHeading := by
    simp [Entry.isHeading, Entry.moved]
  have text : (e.moved count).text = e.text := rfl
  have titles : (chain.map (Heading.moved count)).map (·.title) = chain.map (·.title) := by
    rw [List.map_map]
    rfl
  have same : s.Reports (chain.map (Heading.moved count)) (e.moved count) ↔
      s.Reports chain e := by
    rw [← s.reports_iff, ← s.reports_iff, searches_moved, isHeading, text, searchText_moved]
  unfold judge?
  by_cases reports : s.Reports chain e
  · rw [if_pos reports, if_pos (same.mpr reports), Option.map_some, hitOn, hitOn, isHeading,
      text, titles, searchText_moved]
    rfl
  · rw [if_neg reports, if_neg (fun moved => reports (same.mp moved)), Option.map_none]

theorem judged_append (s : Searcher σ) {first : Text} (opens : OpensSection s.kind first)
    (before more : List Text) :
    s.judged (before ++ first :: more) =
      s.judged before ++ (s.judged (first :: more)).map (Hit.moved before.length) := by
  obtain ⟨e, rest, entries, heading, isHeading, outermost⟩ :=
    exists_heading_of_opensSection opens more
  have positive : ∀ lines, ∀ h ∈ (entriesOf s.kind lines).filterMap (·.heading),
      1 ≤ h.depth := by
    intro lines h member
    obtain ⟨e, isEntry, isHeading⟩ := List.mem_filterMap.mp member
    exact depth_pos_of_mem_entriesOf isEntry isHeading
  have isHeadingMoved : (e.moved before.length).heading =
      some (heading.moved before.length) := by
    simp [Entry.moved, isHeading]
  unfold judged
  simp only [entriesOf_append opens before more]
  rw [List.zipIdx_append, List.filterMap_append]
  congr 1
  · apply List.filterMap_congr
    rintro ⟨entry, index⟩ member
    have inBefore : index < (entriesOf s.kind before).length := by
      have bound := List.snd_lt_of_mem_zipIdx member
      simpa using bound
    simp only [s.chainAt_append_left inBefore]
  · have chain : ∀ index,
        s.chainAt (entriesOf s.kind before ++
            (entriesOf s.kind (first :: more)).map (Entry.moved before.length))
          ((entriesOf s.kind before).length + index) =
        (s.chainAt (entriesOf s.kind (first :: more)) index).map
          (Heading.moved before.length) := by
      intro index
      rw [← s.chainAt_moved before.length (positive _), entries, List.map_cons,
        s.chainAt_append_right isHeadingMoved outermost (positive before)]
    rw [List.zipIdx_eq_map_add, List.zipIdx_map, List.map_map, List.filterMap_map,
      List.map_filterMap]
    apply List.filterMap_congr
    rintro ⟨entry, index⟩ -
    simp only [Function.comp_apply, Prod.map_apply, id_eq, Nat.zero_add]
    rw [chain, judge?_moved]

/-- A document that goes on with a heading of depth one is searched as two documents. -/
theorem search_append_of_opensSection (s : Searcher σ) (before more : List Text) {first : Text}
    (opens : OpensSection s.kind first) :
    s.search (before ++ first :: more) =
      (s.search before).andThen fun hits =>
        (fun later => hits ++ later.map (Hit.moved before.length)) <$>
          s.search (first :: more) := by
  rw [search_eq_reported, search_eq_reported, search_eq_reported, s.judged_append opens,
    reported_append]
  cases s.reported (s.judged before) with
  | failed problems => rfl
  | passed hits =>
      simp only [Checked.andThen, reported_moved]
      cases s.reported (s.judged (first :: more)) <;> rfl

/-- The first part leaves out levels and ends in an open drawer of a section that is passed
over, and the second part begins anew. -/
theorem search_append_of_open_drawer :
    let s : Searcher Binary64 :=
      { query := .empty, criteria := { tagged := ["work".toList] }, scorer := fun _ _ => none }
    let before := ["text", "*** deep :work:", "***** deeper", "* other", ":PROPERTIES:",
      ":key: value"].map String.toList
    let more := ["SCHEDULED: <2024-01-01>", "** two", "body"].map String.toList
    OpensSection s.kind "* one :work:".toList ∧
      s.search (before ++ "* one :work:".toList :: more) =
        ((s.search before).andThen fun hits =>
          (fun later => hits ++ later.map (Hit.moved 6)) <$>
            s.search ("* one :work:".toList :: more)) ∧
      (s.search before).toExcept.toOption.map (·.map (·.line)) = some [2, 3] ∧
      (s.search ("* one :work:".toList :: more)).toExcept.toOption.map (·.map (·.line)) =
        some [1, 3, 4] ∧
      (s.search (before ++ "* one :work:".toList :: more)).toExcept.toOption.map
        (·.map (·.line)) = some [2, 3, 7, 9, 10] := by
  intro s before more
  have opens : OpensSection s.kind "* one :work:".toList :=
    ⟨"one :work:".toList, rfl⟩
  exact ⟨opens, s.search_append_of_opensSection before more opens, by decide +kernel,
    by decide +kernel, by decide +kernel⟩

end Searcher

end OutlineSearch
