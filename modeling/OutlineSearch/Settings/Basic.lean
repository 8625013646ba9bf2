import OutlineSearch.Number.Decimal
import OutlineSearch.Outline.Kind
import OutlineSearch.Text.Blank
import OutlineSearch.Text.Case

/-!
# Settings

Which documents are searched, how lines are matched, how results are printed, which limits
hold, and what is logged.
-/

namespace OutlineSearch

/-- Which documents are searched.  Extensions are written in lower case without a dot. -/
structure Discovery where
  orgExtensions : List Text := ["org".toList]
  markdownExtensions : List Text := ["md".toList, "markdown".toList]
  noOrg : Bool := false
  noMarkdown : Bool := false
  /-- Names of folders that are passed over. -/
  skippedFolders : List Text := ["node_modules".toList]
  includeHidden : Bool := false
deriving Repr, DecidableEq

structure Matching where
  /-- Whether the name of the file belongs to the text that is searched. -/
  searchFilename : Bool := false
  /-- The least score, out of a hundred, with which a fuzzy term counts as found. -/
  cutoff : Binary64 := Binary64.ofNat 60
  /-- Whether a heading that matches is reported without its text. -/
  omitHeadings : Bool := false
deriving Repr, DecidableEq

structure Layout where
  color : Bool := true
  showHeadings : Bool := true
  showLineNumbers : Bool := true
  /-- What stands between headings. -/
  separator : Text := ['/']
  /-- Whether a NUL stands between path and line number. -/
  nullSeparator : Bool := false
  /-- How many results are printed, if not all. -/
  count : Option Nat := none
deriving Repr, DecidableEq

/-- How much work is done at once. -/
structure Limits where
  workers : Nat := 4
  maxBytes : Nat := 10000000
deriving Repr, DecidableEq

/-- How grave a message is. -/
inductive Severity where
  | critical
  | error
  | warning
  | info
  | debug
deriving Repr, DecidableEq

namespace Severity

def name : Severity → String
  | critical => "CRITICAL"
  | error => "ERROR"
  | warning => "WARNING"
  | info => "INFO"
  | debug => "DEBUG"

/-- All severities, the gravest first. -/
def all : List Severity := [critical, error, warning, info, debug]

/-- The severity that a word names, blanks and case disregarded. -/
def ofWord? (word : Text) : Option Severity :=
  all.find? fun s => s.name.toList = word.trim.upper

def rank : Severity → Nat
  | critical => 50
  | error => 40
  | warning => 30
  | info => 20
  | debug => 10

end Severity

/-- What is logged, and how. -/
structure Logging where
  level : Severity := .warning
  format : Text := "[%(name)s] %(levelname)s: %(message)s".toList
deriving Repr, DecidableEq

structure Settings where
  discovery : Discovery := {}
  matching : Matching := {}
  layout : Layout := {}
  limits : Limits := {}
  logging : Logging := {}
deriving Repr, DecidableEq

namespace Discovery

/-- An extension as it is kept: without blanks and leading dots, in lower case. -/
def normalExtension (extension : Text) : Text :=
  Text.lower (extension.trim.dropWhile (· == '.'))

/-- The kind of the documents with an extension; `none` if they are not searched.  An
extension that is listed twice counts for Markdown. -/
def kindOf? (d : Discovery) (extension : Text) : Option OutlineKind :=
  let extension := Text.lower (extension.dropWhile (· == '.'))
  if !d.noMarkdown && d.markdownExtensions.contains extension then some .markdown
  else if !d.noOrg && d.orgExtensions.contains extension then some .org
  else none

end Discovery

namespace Limits

/-- Divides by 1024 until the number is small enough or the units are used up. -/
def inUnits (size : Binary64) : List String → Text
  | [] => size.toFixed 1 ++ " TB".toList
  | unit :: units =>
    if Binary64.lt size (Binary64.ofNat 1024) then size.toFixed 1 ++ ' ' :: unit.toList
    else inUnits (Binary64.div size (Binary64.ofNat 1024)) units

/-- The greatest size of a document in a unit that suits it; `none` if the size is beyond
the range of floating-point numbers. -/
def readableSize? (l : Limits) : Option Text :=
  match Binary64.ofNat l.maxBytes with
  | .infinite _ => none
  | size => some (inUnits size ["B", "KB", "MB", "GB"])

end Limits

namespace Settings

/-- Inserts a text into a list in code point order. -/
def insertSorted (t : Text) : List Text → List Text
  | [] => [t]
  | u :: rest => if t.le u then t :: u :: rest else u :: insertSorted t rest

def sorted (texts : List Text) : List Text := texts.foldr insertSorted []

/-- The extensions that are listed for both kinds, in code point order. -/
def sharedExtensions (s : Settings) : List Text :=
  sorted (s.discovery.orgExtensions.filter (s.discovery.markdownExtensions.contains ·))

def describe (s : Settings) : Text :=
  let extensions (off : Bool) (list : List Text) : Text :=
    if off then "off".toList else Text.join [','] list
  Text.join " | ".toList
    ["Org: ".toList ++ extensions s.discovery.noOrg s.discovery.orgExtensions,
     "Markdown: ".toList ++ extensions s.discovery.noMarkdown s.discovery.markdownExtensions,
     "Workers: ".toList ++ Text.ofNat s.limits.workers,
     "Color: ".toList ++ (if s.layout.color then "True" else "False").toList]

end Settings

end OutlineSearch
