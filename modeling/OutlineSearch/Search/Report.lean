import OutlineSearch.Number.Decimal
import OutlineSearch.Search.Hit

/-!
# Reports

A report holds all hits of a search and the messages about documents that could not be
read.
-/

namespace OutlineSearch

/-- What a search has found. -/
structure Report where
  /-- The query as it was typed. -/
  query : Text := []
  hits : List (Hit Binary64) := []
  /-- The number of documents that were searched. -/
  scanned : Nat := 0
  /-- How many seconds the search took. -/
  seconds : Binary64 := .zero
  /-- One message for each document that could not be read. -/
  errors : List Text := []
deriving Repr, DecidableEq

namespace Report

/-- Hits in the order of their scores, the highest first if `descending`.  Hits with the
same score keep their order. -/
def sortHits (descending : Bool) (hits : List (Hit Binary64)) : List (Hit Binary64) :=
  if descending then hits.mergeSort fun a b => !Binary64.lt a.score b.score
  else hits.mergeSort fun a b => !Binary64.lt b.score a.score

def sort (descending : Bool) (r : Report) : Report :=
  { r with hits := sortHits descending r.hits }

def extend (more : List (Hit Binary64)) (r : Report) : Report := { r with hits := r.hits ++ more }

def addError (message : Text) (r : Report) : Report := { r with errors := r.errors ++ [message] }

def describe (r : Report) : Text :=
  let errors := if r.errors.isEmpty then [] else
    ["Errors: ".toList ++ Text.ofNat r.errors.length]
  Text.join " | ".toList
    (("Found ".toList ++ Text.ofNat r.hits.length ++ " results".toList)
      :: ("Scanned ".toList ++ Text.ofNat r.scanned ++ " files".toList)
      :: ("Took ".toList ++ r.seconds.toFixed 2 ++ ['s']) :: errors)

/-- A report from the values of its fields. -/
def check (entries : List (Data × Data)) : Checked Report :=
  Report.mk
    <$> Field.withDefault entries "query" [] Field.text
    <*> Field.withDefault entries "results" []
      (Field.listOf (Field.record "SearchResult" Hit.check))
    <*> Field.withDefault entries "total_scanned" 0 (Field.integerFrom 0)
    <*> Field.withDefault entries "execution_time" .zero Field.nonnegative
    <*> Field.withDefault entries "errors" [] Field.texts

end Report

end OutlineSearch
