import Mathlib.Data.List.Basic
import OutlineSearch.Outline.Document
import OutlineSearch.Proofs.Cursor

/-!
# The lines that belong to a heading

Behind a heading there may be a line with its timestamp, and behind that a drawer: an opening
line, entries, and a closing line.  A drawer that is not closed ends with its last entry.
Everything here is said of the list of lines behind the heading; that a cursor reads them so
is `Cursor.readHeading_spec`.
-/

namespace OutlineSearch

namespace Property

/-- Whether a line is an entry of a drawer. -/
def isEntry (line : Text) : Bool := !closesDrawer line && (parse line).toOption.isSome

/-- The properties found with those on further lines. -/
def collect (found : List (Text × Text)) (lines : List Text) : List (Text × Text) :=
  (lines.filterMap fun line => (parse line).toOption).foldl
    (fun found entry => put entry.1 entry.2 found) found

end Property

namespace Metadata

/-- How many lines hold the timestamp. -/
def timestampSize (lines : List Text) : Nat :=
  if lines.head?.any Timestamp.isLabelled then 1 else 0

/-- The timestamp of a heading, from the lines behind it. -/
def timestamp (lines : List Text) : Option Timestamp :=
  (lines.take (timestampSize lines)).head?.bind fun line => (Timestamp.parse line).toOption

/-- How many lines belong to a drawer behind its opening line. -/
def bodySize (lines : List Text) : Nat :=
  (lines.takeWhile Property.isEntry).length +
    if (lines.dropWhile Property.isEntry).head?.any Property.closesDrawer then 1 else 0

/-- How many lines belong to a drawer that may begin with the first of the lines. -/
def drawerSize : List Text → Nat
  | [] => 0
  | opener :: rest => if Property.opensDrawer opener then 1 + bodySize rest else 0

/-- The properties in a drawer that may begin with the first of the lines. -/
def properties : List Text → List (Text × Text)
  | [] => []
  | opener :: rest =>
    if Property.opensDrawer opener then
      Property.collect [] (rest.takeWhile Property.isEntry)
    else []

/-- How many of the lines behind a heading belong to it. -/
def size (lines : List Text) : Nat :=
  timestampSize lines + drawerSize (lines.drop (timestampSize lines))

theorem timestampSize_le_length (lines : List Text) : timestampSize lines ≤ lines.length := by
  cases lines with
  | nil => simp [timestampSize]
  | cons line rest =>
      unfold timestampSize
      split <;> simp

theorem bodySize_le_length (lines : List Text) : bodySize lines ≤ lines.length := by
  have parts : (lines.takeWhile Property.isEntry).length +
      (lines.dropWhile Property.isEntry).length = lines.length := by
    rw [← List.length_append, List.takeWhile_append_dropWhile]
  unfold bodySize
  cases behind : lines.dropWhile Property.isEntry with
  | nil =>
      rw [behind] at parts
      simpa using Nat.le_of_eq parts
  | cons line rest =>
      rw [behind, List.length_cons] at parts
      split <;> omega

theorem drawerSize_le_length (lines : List Text) : drawerSize lines ≤ lines.length := by
  cases lines with
  | nil => simp [drawerSize]
  | cons opener rest =>
      have body := bodySize_le_length rest
      simp only [drawerSize, List.length_cons]
      split <;> omega

theorem size_le_length (lines : List Text) : size lines ≤ lines.length := by
  have first := timestampSize_le_length lines
  have second := drawerSize_le_length (lines.drop (timestampSize lines))
  rw [List.length_drop] at second
  unfold size
  omega

theorem bodySize_of_closes {line : Text} (closes : Property.closesDrawer line = true)
    (rest : List Text) : bodySize (line :: rest) = 1 := by
  simp [bodySize, Property.isEntry, closes]

theorem bodySize_of_entry {line : Text} (entry : Property.isEntry line = true)
    (rest : List Text) : bodySize (line :: rest) = bodySize rest + 1 := by
  simp only [bodySize, List.takeWhile_cons_of_pos entry, List.dropWhile_cons_of_pos entry,
    List.length_cons]
  omega

theorem bodySize_of_neither {line : Text} (noEntry : Property.isEntry line = false)
    (notClosing : Property.closesDrawer line = false) (rest : List Text) :
    bodySize (line :: rest) = 0 := by
  simp [bodySize, noEntry, notClosing]

end Metadata

namespace Cursor

/-- Where a cursor is after some lines have been read. -/
structure Passed (before after : Cursor) (count : Nat) : Prop where
  upcoming : after.upcoming = before.upcoming.drop count
  number : after.number = before.number + count
  current : after.current = (before.current :: before.upcoming.map some)[count]?.join

theorem passed_peek (c : Cursor) : Passed c c.peek.2 0 := ⟨by simp, by simp, by simp⟩

theorem passed_advance {c : Cursor} {line : Text} {rest : List Text}
    (next : c.upcoming = line :: rest) : Passed c c.advance.2 1 :=
  ⟨by simp [next], by simp [number_advance, next], by simp [next]⟩

theorem Passed.trans {first second third : Cursor} {few more : Nat}
    (before : Passed first second few) (after : Passed second third more) :
    Passed first third (few + more) := by
  constructor
  · rw [after.upcoming, before.upcoming, List.drop_drop]
  · rw [after.number, before.number, Nat.add_assoc]
  · rw [after.current]
    cases more with
    | zero => exact before.current
    | succ more => simp [before.upcoming, ← Nat.add_assoc]

/-- Looking at a line and then reading it passes one line. -/
theorem passed_peek_advance {c : Cursor} {line : Text} {rest : List Text}
    (next : c.upcoming = line :: rest) : Passed c c.peek.2.advance.2 1 := by
  have afterPeek : c.peek.2.upcoming = line :: rest := by rw [upcoming_peek, next]
  exact c.passed_peek.trans (passed_advance afterPeek)

theorem readDrawer_of_nil {c : Cursor} (next : c.upcoming = [])
    (found : List (Text × Text)) (limit : Nat) :
    readDrawer found (limit + 1) c = (found, c.peek.2) := by
  rw [readDrawer, peek_of_nil next]

section NextLine

variable {c : Cursor} {line : Text} {rest : List Text}
  (next : c.upcoming = line :: rest) (found : List (Text × Text)) (limit : Nat)
include next

theorem readDrawer_of_closes (closes : Property.closesDrawer line = true) :
    readDrawer found (limit + 1) c = (found, c.peek.2.advance.2) := by
  rw [readDrawer, peek_of_cons next]
  simp only [closes, if_true]

theorem readDrawer_of_error (notClosing : Property.closesDrawer line = false)
    {e : Property.Error} (parsed : Property.parse line = .error e) :
    readDrawer found (limit + 1) c = (found, c.peek.2) := by
  rw [readDrawer, peek_of_cons next]
  simp only [notClosing, parsed, Bool.false_eq_true, if_false]

theorem readDrawer_of_ok (notClosing : Property.closesDrawer line = false)
    {entry : Text × Text} (parsed : Property.parse line = .ok entry) :
    readDrawer found (limit + 1) c =
      readDrawer (Property.put entry.1 entry.2 found) limit c.peek.2.advance.2 := by
  rw [readDrawer, peek_of_cons next]
  simp only [notClosing, parsed, Bool.false_eq_true, if_false]

end NextLine

/-- A drawer is read to its end if the limit allows for every line. -/
theorem readDrawer_spec (found : List (Text × Text)) (limit : Nat) (c : Cursor)
    (enough : c.upcoming.length < limit) :
    (readDrawer found limit c).1 =
        Property.collect found (c.upcoming.takeWhile Property.isEntry) ∧
      Passed c (readDrawer found limit c).2 (Metadata.bodySize c.upcoming) := by
  induction limit generalizing found c with
  | zero => omega
  | succ limit induction =>
      cases next : c.upcoming with
      | nil =>
          rw [readDrawer_of_nil next]
          exact ⟨rfl, c.passed_peek⟩
      | cons line rest =>
          by_cases closes : Property.closesDrawer line = true
          · rw [readDrawer_of_closes next found limit closes, Metadata.bodySize_of_closes closes]
            refine ⟨?_, passed_peek_advance next⟩
            simp [Property.isEntry, closes, Property.collect]
          · have notClosing : Property.closesDrawer line = false := by simpa using closes
            cases parsed : Property.parse line with
            | error _ =>
                have noEntry : Property.isEntry line = false := by
                  simp [Property.isEntry, parsed, Except.toOption]
                rw [readDrawer_of_error next found limit notClosing parsed,
                  Metadata.bodySize_of_neither noEntry notClosing]
                exact ⟨by simp [noEntry, Property.collect], c.passed_peek⟩
            | ok entry =>
                have isEntry : Property.isEntry line = true := by
                  simp [Property.isEntry, parsed, notClosing, Except.toOption]
                have passed := passed_peek_advance next
                have afterLine : c.peek.2.advance.2.upcoming = rest := by
                  simp [next]
                rw [next, List.length_cons] at enough
                obtain ⟨properties, passedRest⟩ := induction
                  (Property.put entry.1 entry.2 found) c.peek.2.advance.2
                  (by rw [afterLine]; omega)
                rw [afterLine] at properties passedRest
                rw [readDrawer_of_ok next found limit notClosing parsed,
                  List.takeWhile_cons_of_pos isEntry, Metadata.bodySize_of_entry isEntry,
                  Nat.add_comm]
                refine ⟨?_, passed.trans passedRest⟩
                rw [properties]
                simp [Property.collect, parsed, Except.toOption]

/-- The drawer on the next lines is read, if there is one. -/
theorem readProperties_spec (c : Cursor) :
    c.readProperties.1 = Metadata.properties c.upcoming ∧
      Passed c c.readProperties.2 (Metadata.drawerSize c.upcoming) := by
  cases next : c.upcoming with
  | nil =>
      rw [readProperties, peek_of_nil next]
      exact ⟨rfl, c.passed_peek⟩
  | cons line rest =>
      rw [readProperties, peek_of_cons next]
      unfold Metadata.properties Metadata.drawerSize
      by_cases opens : Property.opensDrawer line = true
      · simp only [if_pos opens]
        have afterLine : c.peek.2.advance.2.upcoming = rest := by simp [next]
        have body := readDrawer_spec [] (c.peek.2.advance.2.remaining + 1)
          c.peek.2.advance.2 (by rw [length_upcoming]; exact Nat.lt_succ_self _)
        rw [afterLine] at body
        exact ⟨body.1, (passed_peek_advance next).trans body.2⟩
      · simp only [if_neg opens]
        exact ⟨trivial, c.passed_peek⟩

/-- The timestamp on the next line is read, if there is a labelled one. -/
theorem readTimestamp_spec (c : Cursor) :
    c.readTimestamp.1 = Metadata.timestamp c.upcoming ∧
      Passed c c.readTimestamp.2 (Metadata.timestampSize c.upcoming) := by
  cases next : c.upcoming with
  | nil =>
      rw [readTimestamp, peek_of_nil next]
      exact ⟨rfl, c.passed_peek⟩
  | cons line rest =>
      rw [readTimestamp, peek_of_cons next]
      by_cases labelled : Timestamp.isLabelled line = true
      · simp only [Metadata.timestamp, Metadata.timestampSize, List.head?_cons,
          Option.any_some, labelled, if_pos]
        exact ⟨rfl, passed_peek_advance next⟩
      · simp only [Metadata.timestamp, Metadata.timestampSize, List.head?_cons,
          Option.any_some, labelled]
        exact ⟨rfl, c.passed_peek⟩

end Cursor

end OutlineSearch
