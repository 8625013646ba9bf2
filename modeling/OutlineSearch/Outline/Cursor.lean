import OutlineSearch.Text.Basic

/-!
# Cursor

A cursor reads the lines of a document one after the other and can look one line ahead.
The line looked at is held until the cursor moves on to it, because the source gives
every line only once.
-/

namespace OutlineSearch

/-- A reader of lines. -/
structure Cursor where
  /-- The lines that have not been taken from the source. -/
  source : List Text
  /-- The line that has been looked at and not been read. -/
  held : Option Text
  /-- The line that was read last; `none` before the first and after the last line. -/
  current : Option Text
  /-- How many lines have been read. -/
  number : Nat
deriving Repr, DecidableEq

namespace Cursor

/-- A cursor in front of the first line. -/
def ofLines (lines : List Text) : Cursor := ⟨lines, none, none, 0⟩

/-- Moves on to the next line and says whether there was one. -/
def advance (c : Cursor) : Bool × Cursor :=
  match c.held, c.source with
  | some line, _ =>
    (true, { c with held := none, current := some line, number := c.number + 1 })
  | none, line :: rest =>
    (true, { c with source := rest, current := some (Text.chomp line), number := c.number + 1 })
  | none, [] => (false, { c with current := none })

/-- The next line, without moving on to it. -/
def peek (c : Cursor) : Option Text × Cursor :=
  match c.held, c.source with
  | some line, _ => (some line, c)
  | none, line :: rest =>
    (some (Text.chomp line), { c with source := rest, held := some (Text.chomp line) })
  | none, [] => (none, c)

/-- How many lines are left. -/
def remaining (c : Cursor) : Nat := c.source.length + (if c.held.isSome then 1 else 0)

end Cursor

end OutlineSearch
