import OutlineSearch.Command.Options
import OutlineSearch.Outline.Timestamp.Reader
import OutlineSearch.Search.Criteria
import OutlineSearch.Settings.Check

/-!
# What options ask for

Options override settings, and some of them are criteria.
-/

namespace OutlineSearch.Command

/-- Why options cannot be met. -/
inductive Refusal where
  | timestamp (error : Timestamp.Error)
  | invalid (record : String) (problems : List Problem)
deriving Repr

def Refusal.message : Refusal → Text
  | timestamp e => "invalid timestamp: ".toList ++ e.message.toList
  | invalid record problems => "invalid option: ".toList ++ Problem.reportAll record problems

namespace Options

def textsData (texts : List Text) : Data := .list (texts.map .text)

def textData (t : Option Text) : Data := t.elim .null .text

/-- An option that may be missing, as the value of a field; an empty one counts as missing. -/
def given? (t : Option Text) : Option Text := t.filter fun t => !t.isEmpty

/-- The timestamp that is asked for. -/
def schedule (o : Options) : Except Timestamp.Error (Option Timestamp) :=
  match given? o.scheduledAt, given? o.deadlineAt with
  | some value, _ => some <$> Timestamp.ofRequest .scheduled value
  | none, some value => some <$> Timestamp.ofRequest .deadline value
  | none, none => .ok none

/-- The fields of the criteria, apart from the timestamp. -/
def criteriaFields (o : Options) : List (Data × Data) :=
  [(.ofString "tagged", textsData o.tagged),
   (.ofString "properties", Data.mapOf (o.properties.map fun (k, v) => (.text k, .text v))),
   (.ofString "todo", textsData (o.todo.map Text.upper)),
   (.ofString "priority", textsData o.priority),
   (.ofString "priority_lt", textData o.priorityBelow),
   (.ofString "priority_gt", textData o.priorityAbove)]

/-- The criteria that are asked for. -/
def criteria (o : Options) : Except Refusal Criteria :=
  match o.schedule with
  | .error e => .error (.timestamp e)
  | .ok schedule =>
    (Criteria.check o.criteriaFields schedule).toExcept.mapError (.invalid "FilterCriteria")

/-- Fields of which some are replaced. -/
def override (changes : List (String × Option Data)) (fields : List (Data × Data)) :
    List (Data × Data) :=
  changes.foldl (fun fields (name, change) => match change with
    | some d => Data.put (.ofString name) d fields
    | none => fields) fields

/-- Which documents are searched.  All values are checked once more, those of the settings
too. -/
def discovery (o : Options) (d : Discovery) : Except Refusal Discovery :=
  let on (flag : Bool) : Option Data := if flag then some (.bool true) else none
  let folders := o.skippedFolders.map fun more => textsData (d.skippedFolders ++ more)
  let changes :=
    [("no_org", on o.noOrg), ("no_markdown", on o.noMarkdown),
     ("org_extensions", o.orgExtensions.map textsData),
     ("md_extensions", o.markdownExtensions.map textsData), ("blacklist_folders", folders)]
  let fields := match d.toData with
    | .map entries => override changes entries
    | _ => []
  (Discovery.checkFields fields).toExcept.mapError (.invalid "DiscoveryConfig")

/-- How results are printed.  Only a terminal gets colors. -/
def layout (o : Options) (isTerminal : Bool) (l : Layout) : Layout :=
  { color := l.color && !o.noColor && isTerminal
    showHeadings := l.showHeadings && !o.noHeadings
    showLineNumbers := l.showLineNumbers && !o.noLineNumbers
    separator := o.separator.getD l.separator
    nullSeparator := l.nullSeparator || o.nullSeparator
    count := o.count <|> l.count }

def settings (o : Options) (isTerminal : Bool) (s : Settings) : Except Refusal Settings :=
  (fun discovery =>
    { s with
      discovery := discovery
      matching := { s.matching with
        searchFilename := s.matching.searchFilename || o.searchFilename }
      layout := o.layout isTerminal s.layout
      limits := { s.limits with workers := o.workers.getD s.limits.workers } })
    <$> o.discovery s.discovery

end Options

end OutlineSearch.Command
