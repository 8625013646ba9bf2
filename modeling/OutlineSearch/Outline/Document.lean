import OutlineSearch.Outline.Heading.Reader

/-!
# Documents

A document is read into entries: its lines, without those that only hold the timestamp or
the properties of a heading, which become part of that heading.
-/

namespace OutlineSearch

/-- A line of a document. -/
structure Entry where
  text : Text
  /-- The number of the line, counted from one. -/
  number : Nat
  /-- The heading that the line is, with what follows it. -/
  heading : Option Heading
deriving Repr, DecidableEq

namespace Entry

def isHeading (e : Entry) : Bool := e.heading.isSome

end Entry

namespace Cursor

/-- The entries from the next line on.  Every line read uses up one of `limit`. -/
def entries (kind : OutlineKind) : Nat → Cursor → List Entry
  | 0, _ => []
  | limit + 1, c =>
    match c.advance with
    | (false, _) => []
    | (true, c) =>
      let (heading, after) := c.readHeading kind
      ⟨c.current.getD [], c.number, heading⟩ :: entries kind limit after

end Cursor

def entriesOf (kind : OutlineKind) (lines : List Text) : List Entry :=
  (Cursor.ofLines lines).entries kind lines.length

end OutlineSearch
