import OutlineSearch.Text.Basic

/-!
# Kinds of outline documents
-/

namespace OutlineSearch

/-- How headings are marked in a document. -/
inductive OutlineKind where
  /-- Headings begin with number signs. -/
  | markdown
  /-- Headings begin with stars. -/
  | org
deriving Repr, DecidableEq

namespace OutlineKind

/-- The character that is repeated at the start of a heading. -/
def marker : OutlineKind → Char
  | markdown => '#'
  | org => '*'

def name : OutlineKind → String
  | markdown => "markdown"
  | org => "org"

end OutlineKind

end OutlineSearch
