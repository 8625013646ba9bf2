import OutlineSearch.Search.Report
import OutlineSearch.Search.Searcher
import OutlineSearch.Text.Lines
import OutlineSearch.Tree.Walk

/-!
# Searching many documents

Documents are searched independently of each other and in any order.  Their hits are put
together in the order in which the documents were found and then sorted by score, so the
order of the work cannot be seen in the result.
-/

namespace OutlineSearch

/-- What comes of searching one document: its hits, or the message that it could not be
read. -/
abbrev Outcome := Except Text (List (Hit Binary64))

namespace Searcher

variable {σ : Type} [Zero σ] [Add σ]

/-- Why a document could not be searched. -/
inductive Failure where
  /-- The document could not be opened or read. -/
  | unreadable (fault : FileFault)
  | invalid (problems : List Problem)

def unreadableMessage (path : Text) (fault : FileFault) : Text :=
  "Cannot read ".toList ++ path ++ ": ".toList ++ fault.message

/-- Searches the bytes of a document.  Bytes that are no text count as U+FFFD. -/
def searchBytes (s : Searcher σ) (bytes : List UInt8) : Checked (List (Hit σ)) :=
  s.search (Text.lines (Utf8.decodeLenient bytes))

/-- Searches the document that the searcher's path leads to. -/
def searchDisk (s : Searcher σ) (disk : Disk) : Except Failure (List (Hit σ)) :=
  match disk.read s.path with
  | .error fault => .error (.unreadable fault)
  | .ok bytes =>
    match s.searchBytes bytes with
    | .passed hits => .ok hits
    | .failed problems => .error (.invalid problems)

end Searcher

namespace Report

/-- The hits that have arrived, one place for each document, and the messages so far. -/
structure Gathering where
  slots : List (Option (List (Hit Binary64)))
  errors : List Text

/-- Takes note of the outcome for the document at position `index`. -/
def Gathering.receive (outcomes : List Outcome) (g : Gathering) (index : Nat) : Gathering :=
  match outcomes[index]? with
  | some (.ok hits) => { g with slots := g.slots.set index (some hits) }
  | some (.error message) => { g with errors := g.errors ++ [message] }
  | none => g

/-- The report on all documents, whose outcomes arrive in the order of `arrivals`. -/
def gather (query : Text) (outcomes : List Outcome) (arrivals : List Nat) : Report :=
  let g := arrivals.foldl (Gathering.receive outcomes) ⟨outcomes.map fun _ => none, []⟩
  { query := query
    hits := sortHits true (g.slots.map (·.getD [])).flatten
    scanned := outcomes.length
    errors := g.errors }

end Report

/-- A search through many documents. -/
structure Run where
  disk : Disk
  query : Query
  criteria : Criteria := {}
  settings : Settings := {}
  scorer : Scorer Binary64

namespace Run

/-- What is looked for in a document. -/
def searcher (r : Run) (d : Document) : Searcher Binary64 :=
  { query := r.query, criteria := r.criteria, kind := d.kind, path := d.path,
    scorer := r.scorer, matching := r.settings.matching }

/-- What comes of searching a document.  A path that no file can have ends the run. -/
def outcome (r : Run) (d : Document) : Except Searcher.Failure Outcome :=
  match (r.searcher d).searchDisk r.disk with
  | .ok hits => .ok (.ok hits)
  | .error (.unreadable fault) =>
    if fault.error = .nulInPath then .error (.unreadable fault)
    else .ok (.error (Searcher.unreadableMessage d.path fault))
  | .error (.invalid problems) => .error (.invalid problems)

/-- The outcomes of several documents, up to the first that ends the run. -/
def outcomes (r : Run) (documents : List Document) : Except Searcher.Failure (List Outcome) :=
  documents.mapM r.outcome

def report (r : Run) (documents : List Document) : Except Searcher.Failure Report :=
  (fun outcomes => Report.gather r.query.full outcomes (List.range outcomes.length))
    <$> r.outcomes documents

/-- The documents below a path, and what was met on the way. -/
def find (r : Run) (root : Text) : Except Walker.Refusal Walk :=
  Walker.walk ⟨r.disk, r.settings.discovery, r.settings.limits⟩ root

end Run

end OutlineSearch
