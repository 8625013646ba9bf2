import OutlineSearch.Outline.Document
import OutlineSearch.Query.Basic
import OutlineSearch.Search.Criteria
import OutlineSearch.Search.Hit
import OutlineSearch.Search.Similarity
import OutlineSearch.Settings.Basic

/-!
# Searching a document

A document is read line by line.  The headings above a line form its chain; the chain
decides by the criteria whether the section is searched, and its titles together with the
line are the text that the query is matched against.  Lines that hold the timestamp and
the properties of a heading are passed over.
-/

namespace OutlineSearch

/-- What is looked for in a document, and how. -/
structure Searcher (σ : Type) where
  query : Query
  criteria : Criteria := {}
  kind : OutlineKind := .org
  /-- The path that hits report. -/
  path : Text := "<memory>".toList
  scorer : Scorer σ
  matching : Matching := {}

/-- Where a reader stands in a document. -/
structure Position where
  /-- The enclosing headings, the outermost first. -/
  chain : List Heading
  /-- The depth of the last heading, zero before the first. -/
  depth : Nat
  /-- Whether the lines of this section are passed over. -/
  skipping : Bool
deriving Repr, DecidableEq

namespace Position

def start : Position := ⟨[], 0, false⟩

def reset (p : Position) : Position := { p with chain := [], depth := 0, skipping := false }

/-- A chain with another heading in the last place; `none` if no heading stands there. -/
def replaceLast? (h : Heading) : List Heading → Option (List Heading)
  | [] => none
  | first :: rest => some ((first :: rest).dropLast ++ [h])

/-- The chain below a heading.  A deeper heading goes under the last one, a heading of the
same depth takes its place.  A heading of depth `n` that is less deep cuts the chain down to
`n` headings and takes the place of the last of these, even where a level was left out.
`none` if there is no heading whose place it could take. -/
def chainWith? (p : Position) (h : Heading) : Option (List Heading) :=
  if p.depth < h.depth then some (p.chain ++ [h])
  else if h.depth = p.depth then replaceLast? h p.chain
  else replaceLast? h (p.chain.take h.depth)

end Position

namespace Searcher

variable {σ : Type}

/-- Whether the section at a position meets the criteria; `none` if there are criteria and
no heading has been read that could meet them. -/
def qualifies? (s : Searcher σ) (p : Position) : Option Bool :=
  if s.criteria.active.isEmpty then some true
  else p.chain.getLast?.map (s.criteria.accepts p.chain)

/-- The position behind a heading; `none` if the heading takes the place of one that is not
there, or if there is no heading that could meet the criteria. -/
def enter? (s : Searcher σ) (h : Heading) (p : Position) : Option Position := do
  let chain ← p.chainWith? h
  let p : Position := { p with chain := chain, depth := h.depth }
  let accepted ← s.qualifies? p
  some { p with skipping := !accepted }

/-- The position behind a heading.  Every position that a document leads to has one. -/
def enter (s : Searcher σ) (h : Heading) (p : Position) : Position := (s.enter? h p).getD p

/-- The position at an entry that is read at position `p`.  Before the first heading no
section meets any criteria. -/
def advance (s : Searcher σ) (p : Position) (e : Entry) : Position :=
  let p := match e.heading with
    | some h => s.enter h p
    | none => p
  if p.depth = 0 && !s.criteria.active.isEmpty then { p with skipping := true } else p

/-- What stands between the parts of the text that is searched. -/
def separator : Text := " / ".toList

/-- The text that the query is matched against: the titles, the line unless it is a heading
itself, and the name of the document if that is searched too. -/
def searchText (s : Searcher σ) (chain : List Heading) (line : Text) (isHeading : Bool) : Text :=
  let titles := Text.join separator (chain.map (·.title))
  let parts := titles :: (if isHeading then [] else [line])
    ++ (if s.matching.searchFilename then [(Path.ofText s.path).name] else [])
  Text.join separator (parts.filter fun part => !part.isEmpty)

variable [Zero σ] [Add σ]

/-- The sum of the scores of the fuzzy terms that are found; `none` if the query has fuzzy
terms and none of them is found. -/
def score? (s : Searcher σ) (text : Text) : Option σ :=
  let points := s.query.fuzzy.filterMap (s.scorer text)
  if points.isEmpty && !s.query.fuzzy.isEmpty then none else some (points.foldl (· + ·) 0)

/-- The hit that a line is, if the query matches. -/
def hit? (s : Searcher σ) (chain : List Heading) (line : Text) (number : Nat)
    (isHeading : Bool) : Option (Hit σ) :=
  let text := s.searchText chain line isHeading
  if s.query.admits text then
    (s.score? text).map fun score =>
      { score := score
        line := number
        path := s.path
        titles := chain.map (·.title)
        content := if isHeading && s.matching.omitHeadings then [] else line
        isHeading := isHeading }
  else none

/-- The hit that an entry is at a position, if the section is searched and the query
matches. -/
def hitAt? (s : Searcher σ) (e : Entry) (p : Position) : Option (Hit σ) :=
  if p.skipping then none else s.hit? p.chain e.text e.number e.isHeading

/-- The path that hits report, which has to be one that can be reported. -/
def checkedPath (s : Searcher σ) : Checked Text :=
  (Hit.checkPath (.text s.path)).inside "file_path".toList

/-- The hits among entries that are read from position `p` on, and the position behind them.
A hit that cannot be reported ends the search where it is found. -/
def scan (s : Searcher σ) (p : Position) : List Entry → Checked (List (Hit σ)) × Position
  | [] => (.passed [], p)
  | e :: rest =>
    let p := s.advance p e
    match s.hitAt? e p with
    | none => scan s p rest
    | some hit =>
      match s.checkedPath with
      | .failed problems => (.failed problems, p)
      | .passed _ =>
        let (hits, p) := scan s p rest
        ((hit :: ·) <$> hits, p)

/-- The hits in a document, and the position at which the search ends.  Where an earlier
search has left off makes no difference. -/
def searchFrom (s : Searcher σ) (p : Position) (lines : List Text) :
    Checked (List (Hit σ)) × Position :=
  s.scan p.reset (entriesOf s.kind lines)

def search (s : Searcher σ) (lines : List Text) : Checked (List (Hit σ)) :=
  (s.searchFrom .start lines).1

/-- The position at which the search of a document ends. -/
def finalPosition (s : Searcher σ) (lines : List Text) : Position :=
  (s.searchFrom .start lines).2

/-- The hit that a single line is, where the number of the line is any value. -/
def match? (s : Searcher σ) (chain : List Heading) (line : Text) (number : Data)
    (isHeading : Bool) : Checked (Option (Hit σ)) :=
  match s.hit? chain line 1 isHeading with
  | none => .passed none
  | some hit =>
    (fun n path => some { hit with line := n, path := path })
      <$> (Field.integerFrom 1 number).inside "line_number".toList
      <*> s.checkedPath

end Searcher

end OutlineSearch
