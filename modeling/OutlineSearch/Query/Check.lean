import OutlineSearch.Data.Field
import OutlineSearch.Query.Basic

/-!
# Queries from data
-/

namespace OutlineSearch.Query

/-- A pattern from a value, which has to be its text. -/
def checkPattern : Data → Checked Pattern
  | .text t =>
    match Pattern.read t with
    | .ok p => .passed p
    | .error (.defect _) => .fail (.text t) .badPattern
    | .error (.overrun o) => .fail (.text t) (.refused o.message)
  | d => .fail d .notPattern

/-- The number out of range that a pattern asks for. -/
def overflow? : Data → Option Pattern.Overrun
  | .text t => match Pattern.read t with
    | .error (.overrun o) => if o.isOverflow then some o else none
    | _ => none
  | _ => none

/-- A query from the values of its fields.  A pattern that asks for a number out of range is no
problem of a field but ends the check. -/
def check (entries : List (Data × Data)) : Except Pattern.Overrun (Checked Query) :=
  let patterns := ((Data.lookup? "regexes" entries).bind Field.itemsOf?).getD []
  match patterns.findSome? overflow? with
  | some o => .error o
  | none => .ok <|
    Query.mk
      <$> Field.withDefault entries "full" [] Field.text
      <*> Field.withDefault entries "musts" [] Field.texts
      <*> Field.withDefault entries "nones" [] Field.texts
      <*> Field.withDefault entries "regexes" [] (Field.listOf checkPattern)
      <*> Field.withDefault entries "fuzzy_terms" [] Field.texts

end OutlineSearch.Query
