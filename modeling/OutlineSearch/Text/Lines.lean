import OutlineSearch.Text.Basic

/-!
# Lines of a file

A line ends at a line feed, at a carriage return, or at the two together; no other
character ends one.  The terminator of the last line may be missing.
-/

namespace OutlineSearch.Text

/-- The same text with every line terminator written as one line feed. -/
def normalizeNewlines : Text → Text
  | [] => []
  | '\r' :: '\n' :: rest => '\n' :: normalizeNewlines rest
  | c :: rest => (if c = '\r' then '\n' else c) :: normalizeNewlines rest

/-- Puts a character in front of the first line. -/
def consLine (c : Char) : List Text → List Text
  | [] => [[c]]
  | line :: lines => (c :: line) :: lines

/-- The lines of a text whose terminators are line feeds, without the terminators.  What
follows the last line feed is a line only if it is not empty. -/
def splitLines : Text → List Text
  | [] => []
  | c :: rest => if c = '\n' then [] :: splitLines rest else consLine c (splitLines rest)

def lines (text : Text) : List Text := splitLines text.normalizeNewlines

end OutlineSearch.Text
