import OutlineSearch.Outline.Heading.Basic
import OutlineSearch.Text.Case

/-!
# Criteria

A search may be confined to sections with certain headings.  Tags and properties count
for the whole section, so any enclosing heading may carry them; state, priority and
timestamp are looked for on the innermost heading only.
-/

namespace OutlineSearch

/-- The kinds of conditions on the headings of a section. -/
inductive Filter where
  | tags
  | properties
  | todo
  | priority
  | priorityBelow
  | priorityAbove
  | schedule
deriving Repr, DecidableEq

namespace Filter

/-- All kinds, in the order in which they are checked. -/
def all : List Filter :=
  [tags, properties, todo, priority, priorityBelow, priorityAbove, schedule]

def name : Filter → String
  | tags => "tags"
  | properties => "properties"
  | todo => "todo"
  | priority => "priority"
  | priorityBelow => "priority_lt"
  | priorityAbove => "priority_gt"
  | schedule => "schedule"

end Filter

/-- The conditions on the headings of a section. -/
structure Criteria where
  /-- Tags of which each must be carried by some enclosing heading. -/
  tagged : List Text := []
  /-- Properties of which each must be set by some enclosing heading. -/
  properties : List (Text × Text) := []
  /-- States that the innermost heading may be in. -/
  todo : List Text := []
  /-- Priorities that the innermost heading may have. -/
  priority : List Priority := []
  /-- The innermost heading's priority must be strictly lower. -/
  below : Option Priority := none
  /-- The innermost heading's priority must be strictly higher. -/
  above : Option Priority := none
  /-- The innermost heading's timestamp must fall on this one. -/
  schedule : Option Timestamp := none
deriving Repr, DecidableEq

namespace Criteria

/-- Whether criteria contain a condition of some kind. -/
def has (c : Criteria) : Filter → Bool
  | .tags => !c.tagged.isEmpty
  | .properties => !c.properties.isEmpty
  | .todo => !c.todo.isEmpty
  | .priority => !c.priority.isEmpty
  | .priorityBelow => c.below.isSome
  | .priorityAbove => c.above.isSome
  | .schedule => c.schedule.isSome

/-- The kinds of conditions that criteria contain, in the order in which they are checked. -/
def active (c : Criteria) : List Filter := Filter.all.filter c.has

/-- Whether a section meets the condition of one kind.  `chain` are all its headings, and
`innermost` is the last of them. -/
def meets (c : Criteria) (chain : List Heading) (innermost : Heading) : Filter → Bool
  | .tags => c.tagged.all fun tag => chain.any (·.hasTag tag)
  | .properties => c.properties.all fun (key, value) => chain.any (·.hasProperty key value)
  | .todo => innermost.todo.any fun todo => c.todo.contains todo.word
  | .priority => innermost.priority.any fun p => c.priority.any (·.token = p.token)
  | .priorityBelow => innermost.priority.any fun p => c.below.any p.isBelow
  | .priorityAbove => innermost.priority.any fun p => c.above.any p.isAbove
  | .schedule => innermost.timestamp.any fun t => c.schedule.any t.fallsOn

def accepts (c : Criteria) (chain : List Heading) (innermost : Heading) : Bool :=
  c.active.all (c.meets chain innermost)

def describe (c : Criteria) : String :=
  if c.active.isEmpty then "No structural filters"
  else "Filters: " ++ ", ".intercalate (c.active.map (·.name))

/-- States that are made of capitals. -/
def checkStates (d : Data) : Checked (List Text) :=
  (Field.texts d).andThen fun states =>
    match states.find? fun state => !Text.isUpper state with
    | some state =>
      .fail d (.refused ("Invalid TODO state: " ++ String.ofList state.quoted))
    | none => .passed states

/-- A priority given as a record of its parts. -/
def checkRecord : Data → Checked Priority :=
  Field.record "OrgPriority" fun entries =>
    Priority.mk <$> Field.required entries "value" Field.nonemptyText

/-- The first token among values that is none because it is empty. -/
def emptyToken? (items : List Data) : Option (Checked (List Priority)) :=
  items.findSome? fun
    | .text [] => some ((Checked.fail (.text []) .tooShort).inside "value".toList)
    | _ => none

/-- A priority given as a token or as a record. -/
def checkPriority (d : Data) : Checked Priority :=
  match d with
  | .text _ => Priority.check d
  | d => checkRecord d

/-- Priorities; a single one need not stand in a list.  An empty token is reported before
anything else. -/
def checkPriorities (d : Data) : Checked (List Priority) :=
  let items := match d with
    | .list items => items
    | d => [d]
  match emptyToken? items with
  | some refusal => refusal
  | none => Checked.itemsFrom checkPriority 0 items

/-- Criteria from the values of their fields. -/
def check (entries : List (Data × Data)) (schedule : Option Timestamp) : Checked Criteria :=
  (fun tagged properties todo priority below above =>
    { tagged := tagged, properties := properties, todo := todo, priority := priority,
      below := below, above := above, schedule := schedule })
    <$> Field.withDefault entries "tagged" [] Field.texts
    <*> Field.withDefault entries "properties" [] Field.textMap
    <*> Field.withDefault entries "todo" [] checkStates
    <*> Field.withDefault entries "priority" [] checkPriorities
    <*> Field.withDefault entries "priority_lt" none (Field.optional checkPriority)
    <*> Field.withDefault entries "priority_gt" none (Field.optional checkPriority)

end Criteria

end OutlineSearch
