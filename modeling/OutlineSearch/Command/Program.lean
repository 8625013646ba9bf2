import OutlineSearch.Command.Request
import OutlineSearch.Search.Listing
import OutlineSearch.Search.Run
import OutlineSearch.Settings.File
import OutlineSearch.Settings.LogLine

/-!
# The program

A command line is answered by a status, a text for the user and messages.  Settings come
first, then the query, then the options; the first of these that is refused is reported and
nothing is searched.
-/

namespace OutlineSearch.Command

def programName : Text := "marks".toList

def versionText : Text := "0.1.0".toList

/-- The end of a run. -/
structure Finish where
  /-- Zero unless something was refused. -/
  status : Nat
  output : Text := []
  messages : Text := []
deriving Repr, DecidableEq

def refusedStatus : Nat := 2

/-- What ends a run without a status. -/
inductive Failure where
  | settings (refusal : Settings.FileRefusal)
  /-- The format of the log has no placeholder. -/
  | logFormat (format : Text)
  | query (overrun : Pattern.Overrun)
  | timestamp (error : Timestamp.Error)
  | noHome
  /-- The path of what is searched is one that nothing can have. -/
  | badPath (fault : FileFault)
  | invalid (problems : List Problem)

def Failure.message : Failure → Text
  | settings refusal => refusal.message
  | logFormat format => "Invalid format '".toList ++ format ++ "' for '%' style".toList
  | query overrun => overrun.message.toList
  | timestamp e => e.message.toList
  | noHome => Disk.NoHome.message.toList
  | badPath fault => fault.message
  | invalid problems => Problem.reportAll "SearchResult" problems

def Failure.ofWalk : Walker.Refusal → Failure
  | .noHome => noHome
  | .badPath fault => badPath fault

def Failure.ofDocument : Searcher.Failure → Failure
  | .unreadable fault => badPath fault
  | .invalid problems => invalid problems

/-- A message from the program itself. -/
def complaint (message : Text) : Text := programName ++ ": ".toList ++ message ++ ['\n']

/-- A line that tells how the program is called. -/
def usage : Text := "usage: ".toList ++ programName ++ " [options] query\n".toList

/-- The end of a run without a search. -/
def Stop.finish : Stop → Finish
  | .help => { status := 0, output := usage }
  | .version => { status := 0, output := programName ++ ' ' :: versionText ++ ['\n'] }
  | .misuse m =>
    { status := refusedStatus
      messages := usage ++ complaint ("error: ".toList ++ m.message) }

def warning (source : String) (message : Text) : LogEntry := ⟨source.toList, .warning, message⟩

/-- The messages about documents that could not be read, and the hits. -/
def searchAll (run : Run) (path : Text) : Except Failure (List LogEntry × Report) := do
  let walk ← (run.find path).mapError .ofWalk
  let report ← (run.report walk.documents).mapError .ofDocument
  .ok (walk.warnings.map (warning "marks.tools.fs_walker")
    ++ report.errors.map (warning "marks.tools.runner"), report)

/-- Searches with settings and criteria in place. -/
def finishSearch (disk : Disk) (log : Logging) (messages : Text) (o : Options) (query : Query)
    (settings : Settings) (criteria : Criteria) : Except Failure Finish := do
  let run : Run :=
    { disk := disk, query := query, criteria := criteria, settings := settings,
      scorer := Similarity.scorer settings.matching.cutoff }
  let (entries, report) ← searchAll run o.path
  .ok { status := 0
        output := (settings.layout.renderAll report.hits).flatMap (· ++ ['\n'])
        messages := messages ++ log.lines entries }

def refuse (messages : Text) (message : Text) : Except Failure Finish :=
  .ok { status := refusedStatus, messages := messages ++ complaint message }

/-- The end of a run in which the options cannot be met. -/
def refuseOptions (messages : Text) : Refusal → Except Failure Finish
  | .timestamp (.unknownLabel label) => .error (.timestamp (.unknownLabel label))
  | refusal => refuse messages refusal.message

/-- Searches as options ask, with settings from a file. -/
def runWith (disk : Disk) (isTerminal : Bool) (o : Options) (notices : Text)
    (settings : Settings) : Except Failure Finish :=
  let log := if o.debug then { settings.logging with level := .debug } else settings.logging
  if !log.isUsable then .error (.logFormat log.format)
  else
    let messages := notices ++ log.lines (settings.warnings.map (warning "marks.cli"))
    match Query.parse o.query with
    | .error (.overrun overrun) => .error (.query overrun)
    | .error (.refused e) => refuse messages ("invalid query: ".toList ++ e.message.toList)
    | .ok query =>
      match o.settings isTerminal settings with
      | .error refusal => refuseOptions messages refusal
      | .ok settings =>
        match o.criteria with
        | .error refusal => refuseOptions messages refusal
        | .ok criteria => finishSearch disk log messages o query settings criteria

/-- Searches as options ask. -/
def runOptions (disk : Disk) (isTerminal : Bool) (o : Options)
    (reader : Yaml.Reader := fun t => Yaml.load t) : Except Failure Finish :=
  let loaded := Settings.load disk o.config reader
  let notices := loaded.notices.flatMap (· ++ ['\n'])
  match loaded.outcome with
  | .ok found => runWith disk isTerminal o notices found.settings
  | .error refusal =>
    if refusal.isReported then refuse notices refusal.message else .error (.settings refusal)

/-- Answers a command line. -/
def run (disk : Disk) (isTerminal : Bool) (words : List Text)
    (reader : Yaml.Reader := fun t => Yaml.load t) : Except Failure Finish :=
  match Options.ofWords words with
  | .ok o => runOptions disk isTerminal o reader
  | .error stop => .ok stop.finish

end OutlineSearch.Command
