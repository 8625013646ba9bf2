import OutlineSearch.Settings.Check
import OutlineSearch.Yaml.Printer

/-!
# Writing settings

A settings file has a section for each group of settings, in a fixed order, with a comment
above it.
-/

namespace OutlineSearch.Settings

/-- The comments above the sections, in the order of the sections. -/
def sectionComments : List (String × String) :=
  [("discovery", "Which documents are searched"),
   ("search", "How lines are matched against the query"),
   ("output", "How results are printed"),
   ("limits", "Concurrency and file size limits"),
   ("logging", "Logging level and format")]

def headLines : List Text :=
  ["# Marks configuration".toList,
   "# Command line flags override the values below".toList, []]

/-- The lines of a section, empty if the data has no such section. -/
def sectionLines (entries : List (Data × Data)) (name comment : String) : List Text :=
  match Data.lookup? name entries with
  | none => []
  | some value =>
    ["# ".toList ++ comment.toList, Yaml.render [(.ofString name, value)], []]

/-- The text of a settings file with given sections, however long their numbers are. -/
def dataText (entries : List (Data × Data)) : Text :=
  Text.join ['\n'] <|
    headLines ++ sectionComments.flatMap fun (name, comment) => sectionLines entries name comment

/-- A number that has too many digits to be written. -/
structure TooLong where

/-- Whether the data of a section can be written, if there is such a section. -/
def sectionFits (entries : List (Data × Data)) (name : String) : Bool :=
  match Data.lookup? name entries with
  | none => true
  | some value => value.fits

/-- The text of a settings file with given sections, unless a number among them is too long. -/
def writtenText (entries : List (Data × Data)) : Except TooLong Text :=
  if sectionComments.all fun (name, _) => sectionFits entries name then .ok (dataText entries)
  else .error {}

def render (s : Settings) : Except TooLong Text :=
  match s.toData with
  | .map entries => writtenText entries
  | _ => .ok []

end OutlineSearch.Settings
