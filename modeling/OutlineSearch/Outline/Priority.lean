import OutlineSearch.Data.Field

/-!
# Priorities

A priority is a token.  Letters are ordered backwards, so that A is the highest priority;
numerals are ordered as numbers; anything else is ordered as text.
-/

namespace OutlineSearch

structure Priority where
  token : Text
deriving Repr, DecidableEq

namespace Priority

/-- The order of two texts by code points. -/
def compareText (a b : Text) : Ordering :=
  if a.lt b then .lt else if b.lt a then .gt else .eq

/-- The order of two priorities, the higher one being the greater. -/
def compare (a b : Priority) : Ordering :=
  if a.token.isLetters && b.token.isLetters then compareText b.token a.token
  else if a.token.isDigits && b.token.isDigits then
    Ord.compare a.token.digitsValue b.token.digitsValue
  else compareText a.token b.token

def isBelow (a b : Priority) : Bool := compare a b == .lt

def isAbove (a b : Priority) : Bool := compare a b == .gt

def isAtMost (a b : Priority) : Bool := compare a b != .gt

def isAtLeast (a b : Priority) : Bool := compare a b != .lt

/-- A priority from a value, which has to be a token. -/
def check (d : Data) : Checked Priority :=
  (Priority.mk <$> Field.nonemptyText d).inside "value".toList

/-- The ways to compare two priorities. -/
inductive Relation where
  | same
  | different
  | below
  | atMost
  | above
  | atLeast
deriving Repr, DecidableEq

namespace Relation

def sign : Relation → String
  | same => "=="
  | different => "!="
  | below => "<"
  | atMost => "<="
  | above => ">"
  | atLeast => ">="

/-- Whether a relation holds between two priorities.  They are the same if their tokens are,
which is more than neither being higher. -/
def holds (a b : Priority) : Relation → Bool
  | same => a = b
  | different => a ≠ b
  | below => a.isBelow b
  | atMost => a.isAtMost b
  | above => a.isAbove b
  | atLeast => a.isAtLeast b

/-- A comparison of a priority with a value of another type. -/
structure Mismatch where
  relation : Relation
  other : String
deriving Repr, DecidableEq

def Mismatch.message (m : Mismatch) : String :=
  "'" ++ m.relation.sign ++ "' not supported between instances of 'OrgPriority' and '"
    ++ m.other ++ "'"

/-- Whether a relation holds between a priority and a value that is none: they differ, and
no order is defined. -/
def holdsWith (d : Data) : Relation → Except Mismatch Bool
  | same => .ok false
  | different => .ok true
  | relation => .error ⟨relation, d.typeName⟩

end Relation

end Priority

end OutlineSearch
