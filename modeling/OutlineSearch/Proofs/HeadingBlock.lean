import Mathlib.Data.List.Nodup
import OutlineSearch.Proofs.Entries

/-!
# The block behind a heading

What a cursor reads behind a heading is described here by the lines alone.  The relations
below say how a timestamp line, the body of a drawer and a whole drawer are taken from the
front of a list of lines, and what is left.  The main statement is that a cursor, wherever it
has been moved before, reads exactly such a block behind a heading and does not move on any
other line.
-/

namespace OutlineSearch

/-- A timestamp line is taken from the front of the lines, if there is one.  It is taken
whether or not its timestamp can be read. -/
inductive TakesTimestamp : List Text → Option Timestamp → List Text → Prop where
  | labelled {line : Text} (rest : List Text) :
      Timestamp.isLabelled line = true →
      TakesTimestamp (line :: rest) (Timestamp.parse line).toOption rest
  | absent {lines : List Text} :
      (∀ line ∈ lines.head?, Timestamp.isLabelled line = false) →
      TakesTimestamp lines none lines

/-- The lines behind the opening line of a drawer are taken up to its end, and with them the
pairs that they hold. -/
inductive TakesBody : List Text → List (Text × Text) → List Text → Prop where
  -- The closing line comes first: it reads like a property with the key `END`.
  | closed {line : Text} (rest : List Text) :
      Property.closesDrawer line = true → TakesBody (line :: rest) [] rest
  | entry {line : Text} {pair : Text × Text} {lines rest : List Text}
      {pairs : List (Text × Text)} :
      Property.closesDrawer line = false → Property.parse line = .ok pair →
      TakesBody lines pairs rest → TakesBody (line :: lines) (pair :: pairs) rest
  | malformed {line : Text} (rest : List Text) {error : Property.Error} :
      Property.closesDrawer line = false → Property.parse line = .error error →
      TakesBody (line :: rest) [] (line :: rest)
  | exhausted : TakesBody [] [] []

/-- A drawer is taken from the front of the lines, if one is opened there. -/
inductive TakesDrawer : List Text → List (Text × Text) → List Text → Prop where
  | opened {line : Text} {lines rest : List Text} {pairs : List (Text × Text)} :
      Property.opensDrawer line = true → TakesBody lines pairs rest →
      TakesDrawer (line :: lines) pairs rest
  | absent {lines : List Text} :
      (∀ line ∈ lines.head?, Property.opensDrawer line = false) →
      TakesDrawer lines [] lines

/-! ## The properties that pairs set -/

namespace Property

/-- The properties found with those that further pairs set, one after the other. -/
def putAll (found pairs : List (Text × Text)) : List (Text × Text) :=
  pairs.foldl (fun found pair => put pair.1 pair.2 found) found

theorem lookup_put (key value : Text) (found : List (Text × Text)) (wanted : Text) :
    (put key value found).lookup wanted =
      if wanted = key then some value else found.lookup wanted := by
  induction found with
  | nil =>
      by_cases same : wanted = key
      · simp [put, same]
      · simp [put, List.lookup_cons, same, beq_eq_false_iff_ne.mpr same]
  | cons entry rest induction =>
      obtain ⟨first, kept⟩ := entry
      by_cases replaced : first = key
      · subst first
        by_cases same : wanted = key
        · simp [put, same]
        · simp [put, List.lookup_cons, same, beq_eq_false_iff_ne.mpr same]
      · by_cases isFirst : wanted = first
        · subst wanted
          simp [put, replaced]
        · simp only [put, if_neg replaced, List.lookup_cons, beq_eq_false_iff_ne.mpr isFirst,
            induction]

theorem map_fst_put (key value : Text) (found : List (Text × Text)) :
    (put key value found).map Prod.fst =
      if key ∈ found.map Prod.fst then found.map Prod.fst
      else found.map Prod.fst ++ [key] := by
  induction found with
  | nil => simp [put]
  | cons entry rest induction =>
      obtain ⟨first, kept⟩ := entry
      by_cases replaced : first = key
      · simp [put, replaced]
      · have different : key ≠ first := fun same => replaced same.symm
        simp only [put, if_neg replaced, List.map_cons, induction, List.mem_cons, different,
          false_or]
        split <;> rfl

/-- The value that is set last counts. -/
theorem lookup_putAll (found pairs : List (Text × Text)) (wanted : Text) :
    (putAll found pairs).lookup wanted =
      (pairs.reverse.lookup wanted).or (found.lookup wanted) := by
  induction pairs generalizing found with
  | nil => simp [putAll]
  | cons pair pairs induction =>
      have step : putAll found (pair :: pairs) = putAll (put pair.1 pair.2 found) pairs := rfl
      have last : [pair].lookup wanted = if wanted = pair.1 then some pair.2 else none :=
        lookup_put pair.1 pair.2 [] wanted
      rw [step, induction, List.reverse_cons, List.lookup_append, lookup_put, last,
        Option.or_assoc]
      split <;> rfl

/-- No key is set twice. -/
theorem nodup_putAll (pairs : List (Text × Text)) {found : List (Text × Text)}
    (distinct : (found.map Prod.fst).Nodup) : ((putAll found pairs).map Prod.fst).Nodup := by
  induction pairs generalizing found with
  | nil => exact distinct
  | cons pair pairs induction =>
      apply induction
      rw [map_fst_put]
      split
      · exact distinct
      · rename_i fresh
        apply List.Nodup.append distinct (List.nodup_singleton _)
        intro key member isNew
        rw [List.mem_singleton] at isNew
        exact fresh (isNew ▸ member)

end Property

/-! ## What belongs to a heading is what is taken -/

namespace Metadata

theorem takesTimestamp (lines : List Text) :
    TakesTimestamp lines (timestamp lines) (lines.drop (timestampSize lines)) := by
  cases lines with
  | nil => exact .absent (by simp)
  | cons line rest =>
      by_cases labelled : Timestamp.isLabelled line = true
      · have taken : timestampSize (line :: rest) = 1 := by simp [timestampSize, labelled]
        have value : timestamp (line :: rest) = (Timestamp.parse line).toOption := by
          simp [timestamp, taken]
        rw [taken, value]
        exact .labelled rest labelled
      · have taken : timestampSize (line :: rest) = 0 := by simp [timestampSize, labelled]
        have value : timestamp (line :: rest) = none := by simp [timestamp, taken]
        rw [taken, value]
        exact .absent (by simpa using labelled)

theorem takesBody (lines : List Text) :
    TakesBody lines
      ((lines.takeWhile Property.isEntry).filterMap fun line => (Property.parse line).toOption)
      (lines.drop (bodySize lines)) := by
  induction lines with
  | nil => exact .exhausted
  | cons line rest induction =>
      by_cases closes : Property.closesDrawer line = true
      · have noEntry : Property.isEntry line = false := by simp [Property.isEntry, closes]
        rw [bodySize_of_closes closes, List.takeWhile_cons_of_neg (by simpa using noEntry)]
        exact .closed rest closes
      · have notClosing : Property.closesDrawer line = false := by simpa using closes
        cases parsed : Property.parse line with
        | error e =>
            have noEntry : Property.isEntry line = false := by
              simp [Property.isEntry, parsed, Except.toOption]
            rw [bodySize_of_neither noEntry notClosing,
              List.takeWhile_cons_of_neg (by simpa using noEntry)]
            exact .malformed rest notClosing parsed
        | ok pair =>
            have isEntry : Property.isEntry line = true := by
              simp [Property.isEntry, notClosing, parsed, Except.toOption]
            simp only [bodySize_of_entry isEntry, List.takeWhile_cons_of_pos isEntry,
              List.filterMap_cons, parsed, Except.toOption]
            exact .entry notClosing parsed induction

theorem takesDrawer (lines : List Text) :
    ∃ pairs, TakesDrawer lines pairs (lines.drop (drawerSize lines)) ∧
      properties lines = Property.putAll [] pairs := by
  cases lines with
  | nil => exact ⟨[], .absent (by simp), rfl⟩
  | cons opener rest =>
      by_cases opens : Property.opensDrawer opener = true
      · rw [drawerSize, properties, if_pos opens, if_pos opens, Nat.add_comm]
        exact ⟨_, .opened opens (takesBody rest), rfl⟩
      · rw [drawerSize, properties, if_neg opens, if_neg opens]
        exact ⟨[], .absent (by simpa using opens), rfl⟩

/-- What belongs to a heading is a timestamp line and a drawer. -/
theorem takesBlock (lines : List Text) :
    ∃ behind pairs, TakesTimestamp lines (timestamp lines) behind ∧
      TakesDrawer behind pairs (lines.drop (size lines)) ∧
      properties (lines.drop (timestampSize lines)) = Property.putAll [] pairs := by
  obtain ⟨pairs, drawer, properties⟩ := takesDrawer (lines.drop (timestampSize lines))
  rw [List.drop_drop] at drawer
  exact ⟨_, pairs, takesTimestamp lines, drawer, properties⟩

end Metadata

namespace Cursor

/-- A cursor that has passed lines stands on the last of them. -/
theorem StandsOn.passed {texts : List Text} {place count : Nat} {c after : Cursor}
    (stands : StandsOn texts place c) (passed : Passed c after count) :
    StandsOn texts (place + count) after := by
  have upcoming : after.upcoming = texts.drop (place + count) := by
    rw [passed.upcoming, stands.upcoming, List.drop_drop]
  refine ⟨Nat.le_trans stands.positive (Nat.le_add_right _ _), ?_, ?_, ?_, upcoming⟩
  · rw [passed.number, stands.number]
  · rw [passed.current]
    cases count with
    | zero => exact stands.current
    | succ count =>
        rw [← Nat.add_assoc, Nat.add_sub_cancel, List.getElem?_cons_succ, List.getElem?_map,
          stands.upcoming, List.getElem?_drop]
        cases texts[place + count]? <;> rfl
  · rw [peek_fst, upcoming, List.head?_drop]

/-! ## Reading is done by looking ahead and moving on -/

section Moves

variable {lines : List Text} {c : Cursor}

theorem Reached.readDrawer (reached : Reached lines c) (found : List (Text × Text))
    (limit : Nat) : Reached lines (c.readDrawer found limit).2 := by
  induction limit generalizing found c with
  | zero => exact reached
  | succ limit induction =>
      cases next : c.upcoming with
      | nil =>
          rw [readDrawer_of_nil next]
          exact reached.peek
      | cons line rest =>
          by_cases closes : Property.closesDrawer line = true
          · rw [readDrawer_of_closes next found limit closes]
            exact reached.peek.advance
          · have notClosing : Property.closesDrawer line = false := by simpa using closes
            cases parsed : Property.parse line with
            | error _ =>
                rw [readDrawer_of_error next found limit notClosing parsed]
                exact reached.peek
            | ok entry =>
                rw [readDrawer_of_ok next found limit notClosing parsed]
                exact induction reached.peek.advance _

theorem Reached.readProperties (reached : Reached lines c) :
    Reached lines c.readProperties.2 := by
  cases next : c.upcoming with
  | nil =>
      rw [Cursor.readProperties, peek_of_nil next]
      exact reached.peek
  | cons line rest =>
      rw [Cursor.readProperties, peek_of_cons next]
      by_cases opens : Property.opensDrawer line = true
      · simp only [if_pos opens]
        exact reached.peek.advance.readDrawer _ _
      · simp only [if_neg opens]
        exact reached.peek

theorem Reached.readTimestamp (reached : Reached lines c) :
    Reached lines c.readTimestamp.2 := by
  cases next : c.upcoming with
  | nil =>
      rw [Cursor.readTimestamp, peek_of_nil next]
      exact reached.peek
  | cons line rest =>
      rw [Cursor.readTimestamp, peek_of_cons next]
      by_cases labelled : Timestamp.isLabelled line = true
      · simp only [if_pos labelled]
        exact reached.peek.advance
      · simp only [if_neg labelled]
        exact reached.peek

theorem Reached.readHeading (reached : Reached lines c) (kind : OutlineKind) :
    Reached lines (c.readHeading kind).2 := by
  unfold Cursor.readHeading
  split
  · exact reached
  · split
    · exact reached
    · exact reached.readTimestamp.readProperties

end Moves

/-- A heading is read with the block behind it, and the cursor ends on the last line of the
block.  On any other line the cursor is left as it is. -/
theorem readHeading_takes_block (kind : OutlineKind) {lines : List Text} {c : Cursor}
    {line : Text} (reached : Reached lines c) (standing : c.current = some line) :
    StandsOn (lines.map Text.chomp) c.number c ∧
      (¬Marked kind line → c.readHeading kind = (none, c)) ∧
      (Marked kind line → ∃ heading timestamp pairs behind last,
        Heading.ofLine? kind c.number line = some heading ∧
        TakesTimestamp ((lines.map Text.chomp).drop c.number) timestamp behind ∧
        TakesDrawer behind pairs ((lines.map Text.chomp).drop last) ∧
        c.number ≤ last ∧ last ≤ lines.length ∧
        Reached lines (c.readHeading kind).2 ∧
        StandsOn (lines.map Text.chomp) last (c.readHeading kind).2 ∧
        ∃ properties,
          (c.readHeading kind).1 =
            some { heading with timestamp := timestamp, properties := properties } ∧
          (properties.map Prod.fst).Nodup ∧
          ∀ key, properties.lookup key = pairs.reverse.lookup key) := by
  have stands := reached.standsOn standing
  have isHeading := Heading.isSome_ofLine?_iff kind c.number line
  refine ⟨stands, ?_, ?_⟩
  · intro notMarked
    have none : Heading.ofLine? kind c.number line = none := by
      rw [← Option.not_isSome_iff_eq_none, isHeading]
      exact notMarked
    rw [readHeading, standing]
    simp only [none]
  · intro marked
    obtain ⟨heading, ofLine⟩ := Option.isSome_iff_exists.mp (isHeading.mpr marked)
    obtain ⟨read, passed⟩ := readHeading_spec kind standing
    rw [Heading.withMetadata?, ofLine, Option.map_some, stands.upcoming] at read
    rw [Metadata.extent, if_pos marked, stands.upcoming] at passed
    have bound : c.number ≤ lines.length := by
      have isLine := (List.getElem?_eq_some_iff.mp (stands.current.symm.trans standing)).1
      rw [List.length_map] at isLine
      have positive := stands.positive
      omega
    have within := Metadata.size_le_length ((lines.map Text.chomp).drop c.number)
    rw [List.length_drop, List.length_map] at within
    obtain ⟨behind, pairs, takesTimestamp, takesDrawer, properties⟩ :=
      Metadata.takesBlock ((lines.map Text.chomp).drop c.number)
    rw [List.drop_drop] at takesDrawer
    refine ⟨heading, _, pairs, behind, _, ofLine, takesTimestamp, takesDrawer,
      Nat.le_add_right _ _, by omega, reached.readHeading kind, stands.passed passed,
      Property.putAll [] pairs, ?_, ?_, ?_⟩
    · rw [read, properties]
    · exact Property.nodup_putAll pairs List.nodup_nil
    · intro key
      rw [Property.lookup_putAll, List.lookup_nil, Option.or_none]

/-- The line with the timestamp is held already, the timestamp cannot be read, and a property
is set twice. -/
theorem readHeading_takes_block_of_held_line :
    let lines := ["# one", "* two :tag:", "SCHEDULED: <soon>", " :properties:", ":key: old",
      ":other: value", ":key: new", ":end:", ":key: behind"].map String.toList
    let c := (ofLines lines).advance.2.advance.2.peek.2
    let line := "* two :tag:".toList
    (Reached lines c ∧ c.current = some line ∧ c.held = some "SCHEDULED: <soon>".toList) ∧
      Marked .org line ∧
      (∃ heading timestamp pairs behind last,
        Heading.ofLine? .org c.number line = some heading ∧
        TakesTimestamp ((lines.map Text.chomp).drop c.number) timestamp behind ∧
        TakesDrawer behind pairs ((lines.map Text.chomp).drop last) ∧
        StandsOn (lines.map Text.chomp) last (c.readHeading .org).2 ∧
        ∃ properties,
          (c.readHeading .org).1 =
            some { heading with timestamp := timestamp, properties := properties } ∧
          ∀ key, properties.lookup key = pairs.reverse.lookup key) ∧
      (c.readHeading .org).2.number = 8 ∧
      (c.readHeading .org).1.map (fun h => (h.line, h.timestamp, h.properties)) =
        some (2, none, [("key".toList, "new".toList), ("other".toList, "value".toList)]) := by
  intro lines c line
  have reached : Reached lines c := Reached.start.advance.advance.peek
  have standing : c.current = some line := by decide
  have marked : Marked .org line := ⟨1, by decide, "two :tag:".toList, by decide⟩
  obtain ⟨heading, timestamp, pairs, behind, last, ofLine, takesTimestamp, takesDrawer, -, -, -,
    stands, properties, read, -, lookup⟩ :=
    (readHeading_takes_block .org reached standing).2.2 marked
  exact ⟨⟨reached, standing, by decide⟩, marked,
    ⟨heading, timestamp, pairs, behind, last, ofLine, takesTimestamp, takesDrawer, stands,
      properties, read, lookup⟩, by decide +kernel, by decide +kernel⟩

end Cursor

end OutlineSearch
