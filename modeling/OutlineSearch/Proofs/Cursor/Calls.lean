import Mathlib.Data.List.DropRight
import OutlineSearch.Proofs.HeadingBlock

/-!
# Calls of a cursor

A cursor takes every line from its source once and may hold one of them, so what a call does
inside depends on the calls before it.  To its caller a cursor is an index into the lines: the
number of moves made tells what the next call shows, and looking ahead leaves no trace.  The
proof is a relation between an index and a cursor that every call keeps.
-/

namespace OutlineSearch

/-- A line is this text with line terminators behind it, and the text ends in none. -/
structure Text.Unterminated (line text : Text) : Prop where
  behind : ∃ ending : Text, line = text ++ ending ∧ ∀ c ∈ ending, c = '\r' ∨ c = '\n'
  last : ∀ c ∈ text.getLast?, c ≠ '\r' ∧ c ≠ '\n'

theorem Text.unterminated_chomp (line : Text) : Unterminated line (chomp line) := by
  have isDrop : chomp line = line.rdropWhile fun c => c == '\r' || c == '\n' := rfl
  rw [isDrop]
  constructor
  · refine ⟨line.rtakeWhile fun c => c == '\r' || c == '\n',
      List.rdropWhile_append_rtakeWhile.symm, ?_⟩
    intro c taken
    simpa using List.mem_rtakeWhile_imp taken
  · intro c isLast
    obtain ⟨nonempty, rfl⟩ := List.mem_getLast?_eq_getLast isLast
    simpa using List.rdropWhile_last_not (fun c => c == '\r' || c == '\n') line nonempty

namespace Cursor

/-- What can be asked of a cursor. -/
inductive Call where
  | advance
  | peek
deriving Repr, DecidableEq

/-- What a call returns. -/
inductive Answer where
  /-- Whether there was a line to move on to. -/
  | moved (found : Bool)
  /-- The line that comes next. -/
  | next (line : Option Text)
deriving Repr, DecidableEq

/-- What a caller sees when a call is over. -/
structure View where
  answer : Answer
  current : Option Text
  number : Nat
deriving Repr, DecidableEq

/-- Whether the call has moved on to a line. -/
def View.found (view : View) : Bool := view.answer == .moved true

/-- What a call returns, and the cursor behind it. -/
def call (c : Cursor) : Call → Answer × Cursor
  | .advance => (.moved c.advance.1, c.advance.2)
  | .peek => (.next c.peek.1, c.peek.2)

/-- What is seen of a call. -/
def view (c : Cursor) (call : Call) : View :=
  ⟨(c.call call).1, (c.call call).2.current, (c.call call).2.number⟩

/-- What is seen of calls made one after the other. -/
def views (c : Cursor) : List Call → List View
  | [] => []
  | first :: rest => c.view first :: (c.call first).2.views rest

/-- The cursor behind calls made one after the other. -/
def after (c : Cursor) : List Call → Cursor
  | [] => c
  | first :: rest => (c.call first).2.after rest

/-- Lines that are all at hand and the number of moves made among them.  Moves past the last
line are counted too, so that the number tells whether there is a current line. -/
structure Index where
  texts : List Text
  moves : Nat

namespace Index

/-- The line moved on to last. -/
def current : Index → Option Text
  | ⟨_, 0⟩ => none
  | ⟨texts, moves + 1⟩ => texts[moves]?

/-- How many lines have been moved on to. -/
def number (i : Index) : Nat := min i.moves i.texts.length

/-- What a call returns, and the index behind it. -/
def call (i : Index) : Call → Answer × Index
  | .advance => (.moved (decide (i.moves < i.texts.length)), { i with moves := i.moves + 1 })
  | .peek => (.next i.texts[i.moves]?, i)

/-- What is seen of a call. -/
def view (i : Index) (call : Call) : View :=
  ⟨(i.call call).1, (i.call call).2.current, (i.call call).2.number⟩

/-- What is seen of calls made one after the other. -/
def views (i : Index) : List Call → List View
  | [] => []
  | first :: rest => i.view first :: (i.call first).2.views rest

variable {texts : List Text} {moves : Nat}

theorem view_advance_of_lt (inside : moves < texts.length) :
    (⟨texts, moves⟩ : Index).view .advance = ⟨.moved true, some texts[moves], moves + 1⟩ := by
  have counted : min (moves + 1) texts.length = moves + 1 := Nat.min_eq_left inside
  simp only [view, call, current, number, counted, decide_eq_true inside,
    List.getElem?_eq_getElem inside]

theorem found_view_advance_of_le (behind : texts.length ≤ moves) :
    ((⟨texts, moves⟩ : Index).view .advance).found = false := by
  simp [view, call, View.found, behind]

/-- The moves that succeed are moves on to the lines that follow, one after the other, as many
as there are lines for the moves. -/
theorem filter_found_views (texts : List Text) (moves : Nat) (calls : List Call) :
    ((⟨texts, moves⟩ : Index).views calls).filter View.found =
      (((texts.drop moves).take (calls.count .advance)).zipIdx (moves + 1)).map
        fun line => ⟨.moved true, some line.1, line.2⟩ := by
  induction calls generalizing moves with
  | nil => simp [views]
  | cons first rest induction =>
      cases first with
      | peek =>
          have notFound : ((⟨texts, moves⟩ : Index).view .peek).found = false := rfl
          rw [views, List.filter_cons, notFound, List.count_cons_of_ne (by decide)]
          exact induction moves
      | advance =>
          have later := induction (moves + 1)
          rw [views, List.filter_cons, List.count_cons_self]
          rcases Nat.lt_or_ge moves texts.length with inside | behind
          · rw [view_advance_of_lt inside, List.drop_eq_getElem_cons inside,
              List.take_succ_cons, List.zipIdx_cons, List.map_cons, ← later]
            rfl
          · -- No line is left for this move, and so none for those after it.
            rw [List.drop_eq_nil_of_le (Nat.le_succ_of_le behind), List.take_nil] at later
            rw [found_view_advance_of_le behind, List.drop_eq_nil_of_le behind, List.take_nil]
            exact later

end Index

/-- A cursor is where an index is.  Whether it holds the next line or has it in its source makes
no difference here, and so none to the caller. -/
structure Follows (i : Index) (c : Cursor) : Prop where
  upcoming : c.upcoming = i.texts.drop i.moves
  current : c.current = i.current
  number : c.number = i.number

theorem follows_ofLines (lines : List Text) :
    Follows ⟨lines.map Text.chomp, 0⟩ (ofLines lines) :=
  ⟨rfl, rfl, (Nat.zero_min _).symm⟩

namespace Follows

variable {i : Index} {c : Cursor}

theorem peek_fst (follows : Follows i c) : c.peek.1 = i.texts[i.moves]? := by
  rw [Cursor.peek_fst, follows.upcoming, List.head?_drop]

theorem advance_fst (follows : Follows i c) :
    c.advance.1 = decide (i.moves < i.texts.length) := by
  rw [Cursor.advance_fst, follows.upcoming, Bool.eq_iff_iff]
  simp

theorem peek (follows : Follows i c) : Follows i c.peek.2 where
  upcoming := by rw [upcoming_peek, follows.upcoming]
  current := by rw [current_peek, follows.current]
  number := by rw [number_peek, follows.number]

theorem advance (follows : Follows i c) :
    Follows { i with moves := i.moves + 1 } c.advance.2 where
  upcoming := by rw [upcoming_advance, follows.upcoming, List.tail_drop]
  current := by rw [current_advance, follows.upcoming, List.head?_drop, Index.current]
  number := by
    rw [number_advance, follows.upcoming, follows.number, List.length_take, List.length_drop]
    simp only [Index.number]
    omega

/-- Every call returns the same, and the cursor behind it follows the index behind it. -/
theorem call (follows : Follows i c) (call : Call) :
    (c.call call).1 = (i.call call).1 ∧ Follows (i.call call).2 (c.call call).2 := by
  cases call with
  | advance => exact ⟨congrArg Answer.moved follows.advance_fst, follows.advance⟩
  | peek => exact ⟨congrArg Answer.next follows.peek_fst, follows.peek⟩

theorem view (follows : Follows i c) (call : Call) : c.view call = i.view call := by
  obtain ⟨answer, next⟩ := follows.call call
  rw [Cursor.view, Index.view, answer, next.current, next.number]

theorem views (follows : Follows i c) (calls : List Call) : c.views calls = i.views calls := by
  induction calls generalizing i c with
  | nil => rfl
  | cons first rest induction =>
      rw [Cursor.views, Index.views, follows.view, induction (follows.call first).2]

theorem after (follows : Follows i c) (calls : List Call) :
    Follows { i with moves := i.moves + calls.count .advance } (c.after calls) := by
  induction calls generalizing i c with
  | nil => exact follows
  | cons first rest induction =>
      have next := induction (follows.call first).2
      cases first with
      | advance =>
          rw [List.count_cons_self, Nat.add_comm _ 1, ← Nat.add_assoc]
          exact next
      | peek =>
          rw [List.count_cons_of_ne (by decide)]
          exact next

/-- Looking ahead leaves the cursor where it is among its lines. -/
theorem peeks (follows : Follows i c) (peeks : Nat) :
    Follows i (c.after (List.replicate peeks .peek)) := by
  have noMoves : (List.replicate peeks Call.peek).count .advance = 0 := by
    simp [List.count_replicate]
  have after := follows.after (List.replicate peeks .peek)
  rw [noMoves] at after
  exact after

/-- Behind the last line there is no other, and a further move leaves the number of lines. -/
theorem exhausted (follows : Follows i c) (behind : i.texts.length ≤ i.moves) :
    c.peek.1 = none ∧ c.advance.1 = false ∧ c.advance.2.current = none ∧
      c.advance.2.number = i.texts.length := by
  have nothing : i.texts[i.moves]? = none := List.getElem?_eq_none behind
  refine ⟨follows.peek_fst.trans nothing, ?_, follows.advance.current.trans nothing, ?_⟩
  · rw [follows.advance_fst]
    exact decide_eq_false (Nat.not_lt_of_le behind)
  · rw [follows.advance.number]
    exact Nat.min_eq_right (Nat.le_succ_of_le behind)

end Follows

/-- The line that comes next is the one that is moved on to. -/
theorem advance_eq_peek (c : Cursor) :
    c.advance.1 = c.peek.1.isSome ∧ c.advance.2.current = c.peek.1 := by
  rw [advance_fst, current_advance, peek_fst]
  cases c.upcoming <;> exact ⟨rfl, rfl⟩

/-- Whatever calls are made in whatever order, they show what they show of an index into the lines
without their terminators.  So the moves that succeed are moves on to the lines in order, with their
numbers; looking ahead gives the line of the next move and changes nothing, however often it is
done; and once a move fails, every later one fails, without a current line and with the number of
all lines. -/
theorem calls_follow_index (lines : List Text) (calls : List Call) :
    let texts := lines.map Text.chomp
    let start := ofLines lines
    let c := start.after calls
    (∀ line, Text.Unterminated line (Text.chomp line)) ∧
      start.views calls = (⟨texts, 0⟩ : Index).views calls ∧
      (start.views calls).filter View.found =
        ((texts.take (calls.count .advance)).zipIdx 1).map
          (fun line => ⟨.moved true, some line.1, line.2⟩) ∧
      (∀ peeks,
        let d := c.after (List.replicate peeks .peek)
        d.current = c.current ∧ d.number = c.number ∧ d.peek.1 = c.peek.1 ∧
          d.advance.1 = c.peek.1.isSome ∧ d.advance.2.current = c.peek.1) ∧
      c.advance.1 = decide (calls.count .advance < lines.length) ∧
      (c.advance.1 = false → ∀ more,
        let d := c.after more
        d.peek.1 = none ∧ d.advance.1 = false ∧ d.advance.2.current = none ∧
          d.advance.2.number = lines.length) := by
  intro texts start c
  have begins : Follows ⟨texts, 0⟩ start := follows_ofLines lines
  have follows : Follows ⟨texts, calls.count .advance⟩ c := by
    simpa using begins.after calls
  have size : texts.length = lines.length := List.length_map _
  refine ⟨Text.unterminated_chomp, begins.views calls, ?_, ?_, ?_, ?_⟩
  · rw [begins.views]
    exact Index.filter_found_views texts 0 calls
  · intro peeks d
    have same := follows.peeks peeks
    have ahead : d.peek.1 = c.peek.1 := same.peek_fst.trans follows.peek_fst.symm
    rw [← ahead]
    exact ⟨same.current.trans follows.current.symm, same.number.trans follows.number.symm, rfl,
      d.advance_eq_peek⟩
  · rw [follows.advance_fst, size]
  · intro failed more d
    rw [follows.advance_fst, decide_eq_false_iff_not, Nat.not_lt] at failed
    rw [← size]
    exact (follows.after more).exhausted (Nat.le_add_right_of_le failed)

/-- Terminators of all kinds, a line of nothing else and one in the middle of a line; the cursor
is asked ahead twice in front of the first line, and ahead and for more behind the last. -/
theorem calls_follow_index_past_end :
    let lines := ["a\r\n", "\r", "b\rc\n\r\n"].map String.toList
    let calls : List Call := [.peek, .peek, .advance, .advance, .peek, .advance, .peek]
    let more : List Call := [.advance, .peek, .advance]
    let c := (ofLines lines).after calls
    let d := c.after more
    c.advance.1 = false ∧
      ((ofLines lines).views calls).filter View.found =
        [⟨.moved true, some ['a'], 1⟩, ⟨.moved true, some [], 2⟩,
          ⟨.moved true, some ['b', '\r', 'c'], 3⟩] ∧
      c.current = some ['b', '\r', 'c'] ∧
      d.advance.1 = false ∧ d.advance.2.current = none ∧ d.advance.2.number = 3 := by
  intro lines calls more c d
  obtain ⟨-, -, found, -, moved, failed⟩ := calls_follow_index lines calls
  have noMore : c.advance.1 = false := moved.trans (by decide)
  obtain ⟨-, fails, current, number⟩ := failed noMore more
  exact ⟨noMore, found.trans (by decide), by decide, fails, current, number⟩

end Cursor

end OutlineSearch
