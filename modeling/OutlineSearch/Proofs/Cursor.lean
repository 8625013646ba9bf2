import OutlineSearch.Outline.Cursor

/-!
# What a cursor has before it

A cursor is told by its current line, its number and the lines that are still to be read.
Whether the next of them is held or still in the source cannot be seen.
-/

namespace OutlineSearch.Cursor

/-- The lines that are still to be read, without their terminators. -/
def upcoming (c : Cursor) : List Text := c.held.toList ++ c.source.map Text.chomp

@[simp] theorem upcoming_ofLines (lines : List Text) :
    (ofLines lines).upcoming = lines.map Text.chomp := rfl

theorem length_upcoming (c : Cursor) : c.upcoming.length = c.remaining := by
  cases held : c.held <;> simp [upcoming, remaining, held]

@[simp] theorem peek_fst (c : Cursor) : c.peek.1 = c.upcoming.head? := by
  unfold peek upcoming
  split <;> simp_all

@[simp] theorem upcoming_peek (c : Cursor) : c.peek.2.upcoming = c.upcoming := by
  unfold peek upcoming
  split <;> simp_all

@[simp] theorem number_peek (c : Cursor) : c.peek.2.number = c.number := by
  unfold peek
  split <;> rfl

@[simp] theorem current_peek (c : Cursor) : c.peek.2.current = c.current := by
  unfold peek
  split <;> rfl

@[simp] theorem advance_fst (c : Cursor) : c.advance.1 = !c.upcoming.isEmpty := by
  unfold advance upcoming
  split <;> simp_all

@[simp] theorem upcoming_advance (c : Cursor) : c.advance.2.upcoming = c.upcoming.tail := by
  unfold advance upcoming
  split <;> simp_all

@[simp] theorem current_advance (c : Cursor) : c.advance.2.current = c.upcoming.head? := by
  unfold advance upcoming
  split <;> simp_all

theorem peek_of_nil {c : Cursor} (next : c.upcoming = []) : c.peek = (none, c.peek.2) :=
  Prod.ext (by simp [next]) rfl

theorem peek_of_cons {c : Cursor} {line : Text} {rest : List Text}
    (next : c.upcoming = line :: rest) : c.peek = (some line, c.peek.2) :=
  Prod.ext (by simp [next]) rfl

theorem advance_of_nil {c : Cursor} (next : c.upcoming = []) :
    c.advance = (false, c.advance.2) :=
  Prod.ext (by simp [next]) rfl

theorem advance_of_cons {c : Cursor} {line : Text} {rest : List Text}
    (next : c.upcoming = line :: rest) : c.advance = (true, c.advance.2) :=
  Prod.ext (by simp [next]) rfl

/-- The number counts the lines that have been read. -/
theorem number_advance (c : Cursor) :
    c.advance.2.number = c.number + (c.upcoming.take 1).length := by
  unfold advance upcoming
  split <;> simp_all

/-- A cursor that has been moved from in front of some lines by reading and looking ahead, in
any order and however often. -/
inductive Reached (lines : List Text) : Cursor → Prop where
  | start : Reached lines (ofLines lines)
  | advance {c : Cursor} : Reached lines c → Reached lines c.advance.2
  | peek {c : Cursor} : Reached lines c → Reached lines c.peek.2

/-- A cursor stands on the line with a number, counted from one, and looks at the next. -/
structure StandsOn (texts : List Text) (place : Nat) (c : Cursor) : Prop where
  positive : 1 ≤ place
  number : c.number = place
  current : c.current = texts[place - 1]?
  next : c.peek.1 = texts[place]?
  upcoming : c.upcoming = texts.drop place

/-- What has been read and what is still to be read make up the lines. -/
theorem Reached.upcoming {lines : List Text} {c : Cursor} (reached : Reached lines c) :
    c.upcoming = (lines.map Text.chomp).drop c.number ∧
      ∀ line, c.current = some line →
        1 ≤ c.number ∧ (lines.map Text.chomp)[c.number - 1]? = some line := by
  induction reached with
  | start => exact ⟨rfl, fun _ current => by cases current⟩
  | peek _ induction => simpa using induction
  | @advance c _ induction =>
      obtain ⟨upcoming, -⟩ := induction
      cases next : c.upcoming with
      | nil =>
          rw [upcoming_advance, current_advance, number_advance, next]
          refine ⟨?_, fun _ current => by cases current⟩
          rw [List.take_nil, List.length_nil, Nat.add_zero, ← upcoming, next]
          rfl
      | cons line rest =>
          rw [upcoming_advance, current_advance, number_advance, next]
          have first : (lines.map Text.chomp)[c.number]? = some line := by
            rw [← List.head?_drop, ← upcoming, next]
            rfl
          refine ⟨?_, fun other current => ⟨Nat.le_add_left _ _, ?_⟩⟩
          · have tail : rest = (lines.map Text.chomp).drop (c.number + 1) := by
              rw [← List.tail_drop, ← upcoming, next]
              rfl
            exact tail
          · rw [← current]
            exact first

/-- A cursor with a current line stands on it. -/
theorem Reached.standsOn {lines : List Text} {c : Cursor} (reached : Reached lines c)
    {line : Text} (current : c.current = some line) :
    StandsOn (lines.map Text.chomp) c.number c := by
  obtain ⟨upcoming, onLine⟩ := reached.upcoming
  obtain ⟨positive, isLine⟩ := onLine line current
  exact ⟨positive, rfl, by rw [current, isLine], by rw [peek_fst, upcoming, List.head?_drop],
    upcoming⟩

end OutlineSearch.Cursor
