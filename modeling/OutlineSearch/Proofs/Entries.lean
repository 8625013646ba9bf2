import OutlineSearch.Proofs.HeadingLine

/-!
# The entries of a document

A document is read by a cursor that a heading moves past its metadata.  The entries are the
same as those of a recursion on the lines, in which a heading drops as many lines as belong
to it.  They stand at the places that are not metadata of a heading, each once.
-/

namespace OutlineSearch

/-- The heading on a line, with what the lines behind it add. -/
def Heading.withMetadata? (kind : OutlineKind) (number : Nat) (line : Text)
    (rest : List Text) : Option Heading :=
  (Heading.ofLine? kind number line).map fun heading =>
    { heading with
      timestamp := Metadata.timestamp rest
      properties := Metadata.properties (rest.drop (Metadata.timestampSize rest)) }

theorem Heading.isSome_withMetadata?_iff (kind : OutlineKind) (number : Nat) (line : Text)
    (rest : List Text) :
    (Heading.withMetadata? kind number line rest).isSome = true ↔ Marked kind line := by
  rw [withMetadata?, Option.isSome_map, isSome_ofLine?_iff]

theorem Heading.depth_pos_of_withMetadata? {kind : OutlineKind} {number : Nat} {line : Text}
    {rest : List Text} {heading : Heading}
    (read : Heading.withMetadata? kind number line rest = some heading) :
    1 ≤ heading.depth := by
  rw [withMetadata?, Option.map_eq_some_iff] at read
  obtain ⟨plain, ofLine, rfl⟩ := read
  have positive : 1 ≤ plain.depth := depth_pos_of_ofLine? ofLine
  exact positive

namespace Metadata

/-- How many of the lines behind a line belong to it. -/
def extent (kind : OutlineKind) (line : Text) (rest : List Text) : Nat :=
  if Marked kind line then size rest else 0

theorem extent_le_length (kind : OutlineKind) (line : Text) (rest : List Text) :
    extent kind line rest ≤ rest.length := by
  have bound := size_le_length rest
  unfold extent
  split <;> omega

end Metadata

namespace Cursor

/-- A heading is read with its metadata; on any other line the cursor stays where it is. -/
theorem readHeading_spec (kind : OutlineKind) {c : Cursor} {line : Text}
    (standing : c.current = some line) :
    (c.readHeading kind).1 = Heading.withMetadata? kind c.number line c.upcoming ∧
      Passed c (c.readHeading kind).2 (Metadata.extent kind line c.upcoming) := by
  have marked := Heading.isSome_ofLine?_iff kind c.number line
  rw [readHeading, standing]
  cases read : Heading.ofLine? kind c.number line with
  | none =>
      rw [read] at marked
      have notMarked : ¬Marked kind line := fun isMarked => by simpa using marked.mpr isMarked
      simp only [Heading.withMetadata?, read, Option.map_none, Metadata.extent,
        if_neg notMarked, true_and]
      exact ⟨by simp, by simp, by simp⟩
  | some heading =>
      rw [read] at marked
      have isMarked : Marked kind line := marked.mp rfl
      obtain ⟨timestamp, passedTimestamp⟩ := c.readTimestamp_spec
      obtain ⟨properties, passedProperties⟩ := c.readTimestamp.2.readProperties_spec
      rw [passedTimestamp.upcoming] at properties passedProperties
      simp only [Heading.withMetadata?, read, Option.map_some, timestamp, properties,
        Metadata.extent, if_pos isMarked, true_and]
      exact passedTimestamp.trans passedProperties

end Cursor

/-- The entries of a document from some line on, `number` lines having been read. -/
def entriesFrom (kind : OutlineKind) (number : Nat) : List Text → List Entry
  | [] => []
  | line :: rest =>
    ⟨line, number + 1, Heading.withMetadata? kind (number + 1) line rest⟩ ::
      entriesFrom kind (number + 1 + Metadata.extent kind line rest)
        (rest.drop (Metadata.extent kind line rest))
termination_by lines => lines.length

theorem Cursor.entries_eq (kind : OutlineKind) {limit : Nat} {c : Cursor}
    (enough : c.upcoming.length ≤ limit) :
    c.entries kind limit = entriesFrom kind c.number c.upcoming := by
  induction limit generalizing c with
  | zero =>
      have done : c.upcoming = [] := List.length_eq_zero_iff.mp (by omega)
      rw [done, Cursor.entries, entriesFrom]
  | succ limit induction =>
      cases next : c.upcoming with
      | nil =>
          rw [Cursor.entries, Cursor.advance_of_nil next, entriesFrom]
      | cons line rest =>
          have standing : c.advance.2.current = some line := by simp [next]
          obtain ⟨heading, passed⟩ := Cursor.readHeading_spec kind standing
          have step := Cursor.passed_advance next
          have before : c.advance.2.upcoming = rest := by simp [next]
          rw [before, step.number] at heading
          rw [before] at passed
          rw [next, List.length_cons] at enough
          have induction := induction (c := (c.advance.2.readHeading kind).2) (by
            rw [passed.upcoming, before, List.length_drop]
            omega)
          rw [passed.upcoming, passed.number, before, step.number] at induction
          rw [Cursor.entries, Cursor.advance_of_cons next, entriesFrom]
          simp only [standing, Option.getD_some, step.number, heading, induction]

theorem entriesOf_eq (kind : OutlineKind) (lines : List Text) :
    entriesOf kind lines = entriesFrom kind 0 (lines.map Text.chomp) := by
  rw [entriesOf, Cursor.entries_eq kind (by simp)]
  rfl

namespace Metadata

variable {kind : OutlineKind} {line : Text}

theorem not_marked_of_mem_timestamp {lines : List Text}
    (member : line ∈ lines.take (timestampSize lines)) : ¬Marked kind line := by
  intro marked
  cases lines with
  | nil => simp at member
  | cons first rest =>
      by_cases labelled : Timestamp.isLabelled first = true
      · simp only [timestampSize, List.head?_cons, Option.any_some, labelled, if_pos,
          List.take_succ_cons, List.take_zero, List.mem_singleton] at member
        rw [← member, marked.not_labelled] at labelled
        cases labelled
      · simp [timestampSize, labelled] at member

theorem not_marked_of_mem_body {lines : List Text}
    (member : line ∈ lines.take (bodySize lines)) : ¬Marked kind line := by
  intro marked
  induction lines with
  | nil => simp at member
  | cons first rest induction =>
      by_cases entry : Property.isEntry first = true
      · rw [bodySize_of_entry entry, List.take_succ_cons, List.mem_cons] at member
        rcases member with isFirst | later
        · rw [← isFirst, marked.not_isEntry] at entry
          cases entry
        · exact induction later
      · by_cases closes : Property.closesDrawer first = true
        · rw [bodySize_of_closes closes, List.take_succ_cons, List.take_zero,
            List.mem_singleton] at member
          rw [← member, marked.not_closesDrawer] at closes
          cases closes
        · rw [bodySize_of_neither (by simpa using entry) (by simpa using closes)] at member
          simp at member

theorem not_marked_of_mem_drawer {lines : List Text}
    (member : line ∈ lines.take (drawerSize lines)) : ¬Marked kind line := by
  intro marked
  cases lines with
  | nil => simp at member
  | cons opener rest =>
      by_cases opens : Property.opensDrawer opener = true
      · rw [drawerSize, if_pos opens, Nat.add_comm, List.take_succ_cons,
          List.mem_cons] at member
        rcases member with isOpener | inBody
        · rw [← isOpener, marked.not_opensDrawer] at opens
          cases opens
        · exact not_marked_of_mem_body inBody marked
      · simp [drawerSize, opens] at member

/-- No heading is taken for metadata of another one. -/
theorem not_marked_of_mem_take_size {lines : List Text}
    (member : line ∈ lines.take (size lines)) : ¬Marked kind line := by
  rw [size, List.take_add, List.mem_append] at member
  rcases member with inTimestamp | inDrawer
  · exact not_marked_of_mem_timestamp inTimestamp
  · exact not_marked_of_mem_drawer inDrawer

end Metadata

/-- The line at `index` holds metadata of a heading before it. -/
def IsMetadata (kind : OutlineKind) (texts : List Text) (index : Nat) : Prop :=
  ∃ before, before < index ∧ ∃ line ∈ texts[before]?,
    Marked kind line ∧ index ≤ before + Metadata.size (texts.drop (before + 1))

instance (kind : OutlineKind) (texts : List Text) (index : Nat) :
    Decidable (IsMetadata kind texts index) :=
  inferInstanceAs (Decidable (∃ before, before < index ∧ ∃ line ∈ texts[before]?,
    Marked kind line ∧ index ≤ before + Metadata.size (texts.drop (before + 1))))

namespace IsMetadata

variable {kind : OutlineKind} {texts : List Text} {start index : Nat} {line : Text}

theorem not_marked (metadata : IsMetadata kind texts index)
    (found : texts[index]? = some line) : ¬Marked kind line := by
  obtain ⟨before, earlier, -, -, -, within⟩ := metadata
  have member : line ∈ (texts.drop (before + 1)).take
      (Metadata.size (texts.drop (before + 1))) := by
    rw [List.mem_iff_getElem?]
    refine ⟨index - (before + 1), ?_⟩
    rw [List.getElem?_take_of_lt (by omega), List.getElem?_drop,
      show before + 1 + (index - (before + 1)) = index by omega, found]
  exact Metadata.not_marked_of_mem_take_size member

/-- What belongs to a line is metadata. -/
theorem of_extent (found : texts[start]? = some line) (behind : start < index)
    (within : index ≤ start + Metadata.extent kind line (texts.drop (start + 1))) :
    IsMetadata kind texts index := by
  unfold Metadata.extent at within
  split at within
  · rename_i marked
    exact ⟨start, behind, line, found, marked, within⟩
  · omega

/-- Behind a line that is not metadata, metadata ends with what belongs to that line. -/
theorem not_behind_extent (found : texts[start]? = some line)
    (body : ¬IsMetadata kind texts start) :
    ¬IsMetadata kind texts
      (start + 1 + Metadata.extent kind line (texts.drop (start + 1))) := by
  rintro ⟨before, earlier, heading, isHeading, marked, within⟩
  rcases Nat.lt_trichotomy before start with above | same | below
  · exact body ⟨before, above, heading, isHeading, marked, by omega⟩
  · subst same
    have sameLine : line = heading := Option.some.inj (found.symm.trans isHeading)
    rw [sameLine, Metadata.extent, if_pos marked] at within
    omega
  · exact (of_extent found below (by omega)).not_marked isHeading marked

end IsMetadata

/-- The entry for the line at `index`. -/
def entryAt (kind : OutlineKind) (texts : List Text) (index : Nat) : Entry :=
  let line := texts[index]?.getD []
  ⟨line, index + 1, Heading.withMetadata? kind (index + 1) line (texts.drop (index + 1))⟩

theorem isHeading_entryAt {kind : OutlineKind} {texts : List Text} {index : Nat} {line : Text}
    (found : texts[index]? = some line) :
    (entryAt kind texts index).isHeading = true ↔ Marked kind line := by
  simp [Entry.isHeading, entryAt, found, Heading.isSome_withMetadata?_iff]

/-- The places of the lines that are not metadata, from `start` on. -/
def bodyFrom (kind : OutlineKind) (texts : List Text) (start : Nat) : List Nat :=
  (List.range' start (texts.length - start)).filter fun index => ¬IsMetadata kind texts index

theorem mem_bodyFrom_zero {kind : OutlineKind} {texts : List Text} {index : Nat} :
    index ∈ bodyFrom kind texts 0 ↔ index < texts.length ∧ ¬IsMetadata kind texts index := by
  simp [bodyFrom, List.mem_filter, List.mem_range'_1]

theorem bodyFrom_increasing (kind : OutlineKind) (texts : List Text) (start : Nat) :
    (bodyFrom kind texts start).Pairwise (· < ·) :=
  List.Pairwise.filter _ List.pairwise_lt_range'

theorem bodyFrom_eq_cons {kind : OutlineKind} {texts : List Text} {start : Nat} {line : Text}
    (found : texts[start]? = some line) (body : ¬IsMetadata kind texts start) :
    bodyFrom kind texts start = start :: bodyFrom kind texts
      (start + 1 + Metadata.extent kind line (texts.drop (start + 1))) := by
  obtain ⟨inRange, -⟩ := List.getElem?_eq_some_iff.mp found
  have bound := Metadata.extent_le_length kind line (texts.drop (start + 1))
  rw [List.length_drop] at bound
  generalize sizeEq : Metadata.extent kind line (texts.drop (start + 1)) = size at bound ⊢
  have indices : List.range' start (texts.length - start) =
      start :: (List.range' (start + 1) size ++
        List.range' (start + 1 + size) (texts.length - (start + 1 + size))) := by
    rw [List.range'_append_1, ← List.range'_succ]
    congr 1
    omega
  have passed : (List.range' (start + 1) size).filter
      (fun index => ¬IsMetadata kind texts index) = [] := by
    rw [List.filter_eq_nil_iff]
    intro index member
    rw [List.mem_range'_1] at member
    have metadata : IsMetadata kind texts index :=
      .of_extent found (by omega) (by rw [sizeEq]; omega)
    simpa using metadata
  rw [bodyFrom, indices, List.filter_cons_of_pos (by simpa using body), List.filter_append,
    passed, List.nil_append, bodyFrom]

/-- The entries from a line on that is not metadata are those of the lines that are not. -/
theorem entriesFrom_drop (kind : OutlineKind) (texts : List Text) {start : Nat}
    (body : ¬IsMetadata kind texts start) :
    entriesFrom kind start (texts.drop start) =
      (bodyFrom kind texts start).map (entryAt kind texts) := by
  induction left : texts.length - start using Nat.strong_induction_on generalizing start with
  | _ count induction =>
      by_cases inRange : start < texts.length
      · have found : texts[start]? = some texts[start] := List.getElem?_eq_getElem inRange
        have rest := induction _ (by omega) (IsMetadata.not_behind_extent found body) rfl
        rw [bodyFrom_eq_cons found body, List.map_cons, ← rest,
          List.drop_eq_getElem_cons inRange, entriesFrom, List.drop_drop]
        simp [entryAt, found]
      · rw [List.drop_eq_nil_of_le (by omega), bodyFrom,
          show texts.length - start = 0 by omega, entriesFrom]
        rfl

/-- The entries of a document are its lines without those that are metadata. -/
theorem entriesOf_eq_map (kind : OutlineKind) (lines : List Text) :
    entriesOf kind lines =
      (bodyFrom kind (lines.map Text.chomp) 0).map (entryAt kind (lines.map Text.chomp)) := by
  have body : ¬IsMetadata kind (lines.map Text.chomp) 0 := by
    rintro ⟨before, earlier, -⟩
    omega
  rw [entriesOf_eq, ← entriesFrom_drop kind _ body, List.drop_zero]

theorem depth_pos_of_mem_entriesOf {kind : OutlineKind} {lines : List Text} {e : Entry}
    (member : e ∈ entriesOf kind lines) {heading : Heading}
    (isHeading : e.heading = some heading) : 1 ≤ heading.depth := by
  rw [entriesOf_eq_map, List.mem_map] at member
  obtain ⟨index, -, rfl⟩ := member
  exact Heading.depth_pos_of_withMetadata? isHeading

end OutlineSearch
