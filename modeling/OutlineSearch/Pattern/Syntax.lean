import OutlineSearch.Text.Basic

/-!
# Search patterns

A pattern is a tree of nodes.  The options that are in force at a node (letter case, the
alphabet of the character classes, the reading of `.`, `^` and `$`) are resolved when the
pattern is read and stand in the node itself.
-/

namespace OutlineSearch

namespace Pattern

/-- The named classes of characters. -/
inductive Category where
  | digit
  | space
  | word
deriving Repr, DecidableEq

/-- What a character set lists.  A code point may be one that no character has. -/
inductive SetItem where
  /-- One code point. -/
  | code (value : Nat)
  /-- All code points from `first` to `last`. -/
  | range (first last : Nat)
  /-- The members of a class, or the characters outside it. -/
  | category (kind : Category) (negated : Bool)
deriving Repr, DecidableEq

/-- How single characters are compared. -/
structure Comparison where
  /-- Letters that differ in case only are the same. -/
  ignoreCase : Bool := false
  /-- Classes and letter case know ASCII only. -/
  ascii : Bool := false
deriving Repr, DecidableEq

/-- Conditions on a place between two characters. -/
inductive Anchor where
  /-- The beginning of the text, or of every line. -/
  | lineStart (everyLine : Bool)
  /-- The end of the text or before its final line feed, or the end of every line. -/
  | lineEnd (everyLine : Bool)
  | textStart
  | textEnd
  /-- Between a word character and something else. -/
  | wordEdge (ascii : Bool)
  /-- Between two word characters or two others. -/
  | wordInside (ascii : Bool)
deriving Repr, DecidableEq

/-- In which order the numbers of rounds of a repetition are tried. -/
inductive Greed where
  /-- As many rounds as possible first. -/
  | greedy
  /-- As few rounds as possible first. -/
  | lazy
  /-- As many rounds as possible and no other number. -/
  | possessive
deriving Repr, DecidableEq

/-- The least and the greatest number of characters that a node can match. -/
structure Width where
  least : Nat
  most : Nat
deriving Repr, DecidableEq

/-- A pattern. -/
inductive Node where
  /-- Matches the empty text. -/
  | empty
  /-- One character of a set, or outside it. -/
  | set (negated : Bool) (items : List SetItem) (comparison : Comparison)
  /-- Any character; a line feed only where `newline` says so. -/
  | any (newline : Bool)
  | anchor (condition : Anchor)
  | seq (first second : Node)
  | alt (first second : Node)
  /-- Between `least` and `most` rounds of `body`; without `most` there is no limit. -/
  | rounds (greed : Greed) (least : Nat) (most : Option Nat) (body : Node)
  /-- Keeps what `body` matched under a number. -/
  | capture (number : Nat) (body : Node)
  /-- A group that keeps nothing. -/
  | group (body : Node)
  /-- What the capture with this number holds, once more. -/
  | again (number : Nat) (comparison : Comparison)
  /-- The first match of `body` and no other. -/
  | atomic (body : Node)
  /-- `body` matches from here on, or does not. -/
  | ahead (negated : Bool) (body : Node)
  /-- `body` matches what ends here, or does not. -/
  | behind (negated : Bool) (width : Width) (body : Node)
  /-- `yes` if the capture with this number holds something, otherwise `no`. -/
  | choice (number : Nat) (yes no : Node)
deriving Repr, DecidableEq

/-- The nodes one after the other. -/
def Node.ofList : List Node → Node
  | [] => .empty
  | [n] => n
  | n :: m :: rest => .seq n (ofList (m :: rest))

/-- The nodes as alternatives, the first one preferred. -/
def Node.ofBranches : List Node → Node
  | [] => .empty
  | [n] => n
  | n :: m :: rest => .alt n (ofBranches (m :: rest))

end Pattern

/-- A pattern together with the text it was read from. -/
structure Pattern where
  source : Text
  node : Pattern.Node
deriving Repr, DecidableEq

end OutlineSearch
