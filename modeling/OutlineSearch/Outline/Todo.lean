import OutlineSearch.Data.Field

/-!
# Work states

The state of a heading is a word in capitals.  Two of the words have a fixed meaning.
-/

namespace OutlineSearch

/-- The meaning of a state. -/
inductive TodoKeyword where
  | todo
  | done
  | other
deriving Repr, DecidableEq

def TodoKeyword.name : TodoKeyword → String
  | todo => "TODO"
  | done => "DONE"
  | other => "OTHER"

/-- The state of a heading. -/
structure Todo where
  /-- The word as it is written. -/
  word : Text
deriving Repr, DecidableEq

namespace Todo

/-- What a state means. -/
def keyword (t : Todo) : TodoKeyword :=
  if t.word = "TODO".toList then .todo else if t.word = "DONE".toList then .done else .other

/-- A state from a value, which has to be a word. -/
def check (d : Data) : Checked Todo :=
  (Todo.mk <$> Field.nonemptyText d).inside "name".toList

end Todo

end OutlineSearch
