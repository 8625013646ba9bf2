import OutlineSearch.Outline.Kind
import OutlineSearch.Outline.Priority
import OutlineSearch.Outline.Timestamp.Basic
import OutlineSearch.Outline.Todo

/-!
# Headings
-/

namespace OutlineSearch

/-- A heading with what belongs to it. -/
structure Heading where
  /-- The number of its line, counted from one. -/
  line : Nat
  /-- The number of markers in front of it. -/
  depth : Nat
  title : Text
  /-- Tags in the order in which they are written, none twice. -/
  tags : List Text
  /-- The entries of the property drawer. -/
  properties : List (Text × Text)
  todo : Option Todo
  priority : Option Priority
  timestamp : Option Timestamp
deriving Repr, DecidableEq

namespace Heading

/-- Every text once, at its first place. -/
def distinctAux (seen : List Text) : List Text → List Text
  | [] => []
  | t :: rest =>
    if seen.contains t then distinctAux seen rest else t :: distinctAux (t :: seen) rest

/-- Every text once, at its first place. -/
def distinct (texts : List Text) : List Text := distinctAux [] texts

/-- Whether a heading carries a tag itself. -/
def hasTag (h : Heading) (tag : Text) : Bool := h.tags.contains tag

/-- Whether the drawer of a heading gives a property exactly this value. -/
def hasProperty (h : Heading) (key value : Text) : Bool :=
  h.properties.lookup key == some value

def describe (h : Heading) : Text :=
  let todo := match h.todo with
    | some t => ["Todo: ".toList ++ t.word]
    | none => []
  let priority := match h.priority with
    | some p => ["Priority: ".toList ++ p.token]
    | none => []
  let tags := if h.tags.isEmpty then [] else ["Tags: ".toList ++ Text.join [':'] h.tags]
  Text.join " | ".toList
    ((List.replicate h.depth '*' ++ ' ' :: h.title) :: todo ++ priority ++ tags)

/-- A heading from the values of its fields. -/
def check (entries : List (Data × Data)) (todo : Option Todo) (priority : Option Priority)
    (timestamp : Option Timestamp) : Checked Heading :=
  (fun line depth title tags properties =>
    { line := line, depth := depth, title := title, tags := distinct tags,
      properties := properties, todo := todo, priority := priority, timestamp := timestamp })
    <$> Field.withDefault entries "line_number" 1 (Field.integerFrom 1)
    <*> Field.required entries "depth" (Field.integerFrom 1)
    <*> Field.withDefault entries "content" [] Field.text
    <*> Field.withDefault entries "tags" [] Field.texts
    <*> Field.withDefault entries "properties" [] Field.textMap

end Heading

end OutlineSearch
