import OutlineSearch.Data.Field
import OutlineSearch.Text.Blank
import OutlineSearch.Tree.Path

/-!
# Hits

A hit is a line that was found, with the headings it stands under.
-/

namespace OutlineSearch

/-- A line that was found. -/
structure Hit (σ : Type) where
  /-- The sum of the scores of the fuzzy terms. -/
  score : σ
  /-- The number of the line, counted from one. -/
  line : Nat
  /-- The path of the document. -/
  path : Text
  /-- The titles of the enclosing headings, the outermost first. -/
  titles : List Text
  content : Text
  /-- Whether the line is a heading itself. -/
  isHeading : Bool
deriving Repr, DecidableEq

namespace Hit

variable {σ : Type}

def filename (h : Hit σ) : Text := (Path.ofText h.path).name

def titlePath (separator : Text) (h : Hit σ) : Text := Text.join separator h.titles

def describe (h : Hit σ) : Text :=
  let titles := if h.titles.isEmpty then [] else [h.titlePath ['/']]
  Text.join [':'] ((h.path ++ ':' :: Text.ofNat h.line) :: titles ++ [h.content])

/-- A path, which has to hold something other than blanks. -/
def checkPath (d : Data) : Checked Text :=
  (Field.nonemptyText d).andThen fun path =>
    if path.isAllBlank then .fail d (.refused "File path cannot be empty") else .passed path

/-- A hit from the values of its fields. -/
def check (entries : List (Data × Data)) : Checked (Hit Binary64) :=
  Hit.mk
    <$> Field.withDefault entries "score" .zero Field.nonnegative
    <*> Field.required entries "line_number" (Field.integerFrom 1)
    <*> Field.required entries "file_path" checkPath
    <*> Field.withDefault entries "header_chain" [] Field.texts
    <*> Field.withDefault entries "content" [] Field.text
    <*> Field.withDefault entries "is_header_line" false Field.bool

end Hit

end OutlineSearch
