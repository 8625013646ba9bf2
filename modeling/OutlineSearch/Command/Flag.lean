import OutlineSearch.Text.Basic

/-!
# Flags

The flags of the command line and the ways to write them.
-/

namespace OutlineSearch.Command

inductive Flag where
  | help
  | path
  | config
  | version
  | noOrg
  | noMarkdown
  | orgExtension
  | markdownExtension
  | skippedFolder
  | searchFilename
  | count
  | noColor
  | noHeadings
  | noLineNumbers
  | separator
  | null
  | tagged
  | property
  | todo
  | priority
  | priorityBelow
  | priorityAbove
  | scheduledAt
  | deadlineAt
  | workers
  | debug
deriving Repr, DecidableEq

namespace Flag

/-- All flags, in the order in which they are listed. -/
def all : List Flag :=
  [help, path, config, version, noOrg, noMarkdown, orgExtension, markdownExtension,
   skippedFolder, searchFilename, count, noColor, noHeadings, noLineNumbers, separator, null,
   tagged, property, todo, priority, priorityBelow, priorityAbove, scheduledAt, deadlineAt,
   workers, debug]

def spellings : Flag → List String
  | help => ["-h", "--help"]
  | path => ["-p", "--path"]
  | config => ["--config"]
  | version => ["--version"]
  | noOrg => ["--no-org"]
  | noMarkdown => ["--no-markdown"]
  | orgExtension => ["-o", "--org-extension"]
  | markdownExtension => ["-m", "--md-extension"]
  | skippedFolder => ["--blacklist-folder"]
  | searchFilename => ["--search-filename"]
  | count => ["-c", "--count"]
  | noColor => ["--no-color"]
  | noHeadings => ["--no-headers"]
  | noLineNumbers => ["--no-line-numbers"]
  | separator => ["--header-separator"]
  | null => ["--null"]
  | tagged => ["--tagged"]
  | property => ["--prop"]
  | todo => ["--todo"]
  | priority => ["--priority"]
  | priorityBelow => ["--priority-lt"]
  | priorityAbove => ["--priority-gt"]
  | scheduledAt => ["--scheduled-at"]
  | deadlineAt => ["--deadline-at"]
  | workers => ["-j", "--jobs"]
  | debug => ["--debug"]

/-- Whether a flag stands alone; any other one has a value. -/
def isSwitch : Flag → Bool
  | help | version | noOrg | noMarkdown | searchFilename | noColor | noHeadings
  | noLineNumbers | null | debug => true
  | _ => false

/-- How a message names a flag. -/
def name (f : Flag) : Text := ("/".intercalate f.spellings).toList

/-- Every way to write a flag, with the flag. -/
def table : List (Text × Flag) :=
  all.flatMap fun f => f.spellings.map fun s => (s.toList, f)

/-- The flag that is written in a given way. -/
def ofSpelling? (word : Text) : Option Flag := table.lookup word

end Flag

end OutlineSearch.Command
