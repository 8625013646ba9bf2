import OutlineSearch.Data.Field
import OutlineSearch.Data.Literal
import OutlineSearch.Outline.Heading.Basic
import OutlineSearch.Settings.Basic

/-!
# Settings from data

Fields that are left out have their defaults; fields that do not exist are refused.
-/

namespace OutlineSearch

/-- The message about a value that is no extension. -/
def extensionMessage (item : Data) : String :=
  if item.fits then "Invalid file extension: " ++ String.ofList item.literal else Text.tooLong

/-- An extension as it is kept, from a value that has to be a text with something in it. -/
def checkExtension (whole item : Data) : Checked Text :=
  match item with
  | .text t =>
    if t.isAllBlank then .fail whole (.refused (extensionMessage item))
    else .passed (Discovery.normalExtension t)
  | _ => .fail whole (.refused (extensionMessage item))

/-- Checks extensions up to the first that is refused. -/
def checkEachExtension (whole : Data) : List Data → Checked (List Text)
  | [] => .passed []
  | item :: rest =>
    (checkExtension whole item).andThen fun t =>
      (t :: ·) <$> checkEachExtension whole rest

/-- Extensions; a single one need not stand in a list.  Every extension is kept once. -/
def checkExtensions (d : Data) : Checked (List Text) :=
  let items := match d with
    | .list items => items
    | d => [d]
  Heading.distinct <$> checkEachExtension d items

namespace Discovery

def fields : List String :=
  ["org_extensions", "md_extensions", "no_org", "no_markdown", "blacklist_folders",
   "include_hidden"]

def checkFields (entries : List (Data × Data)) : Checked Discovery :=
  let d : Discovery := {}
  Field.onlyKnown fields entries <|
    Discovery.mk
      <$> Field.withDefault entries "org_extensions" d.orgExtensions checkExtensions
      <*> Field.withDefault entries "md_extensions" d.markdownExtensions checkExtensions
      <*> Field.withDefault entries "no_org" d.noOrg Field.bool
      <*> Field.withDefault entries "no_markdown" d.noMarkdown Field.bool
      <*> Field.withDefault entries "blacklist_folders" d.skippedFolders Field.texts
      <*> Field.withDefault entries "include_hidden" d.includeHidden Field.bool

def check : Data → Checked Discovery := Field.record "DiscoveryConfig" checkFields

def toData (d : Discovery) : Data :=
  .map [(.ofString "org_extensions", .list (d.orgExtensions.map .text)),
    (.ofString "md_extensions", .list (d.markdownExtensions.map .text)),
    (.ofString "no_org", .bool d.noOrg),
    (.ofString "no_markdown", .bool d.noMarkdown),
    (.ofString "blacklist_folders", .list (d.skippedFolders.map .text)),
    (.ofString "include_hidden", .bool d.includeHidden)]

end Discovery

namespace Matching

def fields : List String := ["search_filename", "fuzzy_score_cutoff", "omit_header_content"]

def checkFields (entries : List (Data × Data)) : Checked Matching :=
  let d : Matching := {}
  Field.onlyKnown fields entries <|
    Matching.mk
      <$> Field.withDefault entries "search_filename" d.searchFilename Field.bool
      <*> Field.withDefault entries "fuzzy_score_cutoff" d.cutoff Field.percentage
      <*> Field.withDefault entries "omit_header_content" d.omitHeadings Field.bool

def check : Data → Checked Matching := Field.record "SearchConfig" checkFields

def toData (m : Matching) : Data :=
  .map [(.ofString "search_filename", .bool m.searchFilename),
    (.ofString "fuzzy_score_cutoff", .float m.cutoff),
    (.ofString "omit_header_content", .bool m.omitHeadings)]

end Matching

namespace Layout

def fields : List String :=
  ["color", "show_headers", "show_line_numbers", "header_separator", "null_separator", "count"]

def checkFields (entries : List (Data × Data)) : Checked Layout :=
  let d : Layout := {}
  Field.onlyKnown fields entries <|
    Layout.mk
      <$> Field.withDefault entries "color" d.color Field.bool
      <*> Field.withDefault entries "show_headers" d.showHeadings Field.bool
      <*> Field.withDefault entries "show_line_numbers" d.showLineNumbers Field.bool
      <*> Field.withDefault entries "header_separator" d.separator Field.text
      <*> Field.withDefault entries "null_separator" d.nullSeparator Field.bool
      <*> Field.withDefault entries "count" d.count (Field.optional (Field.integerFrom 0))

def check : Data → Checked Layout := Field.record "OutputConfig" checkFields

def toData (l : Layout) : Data :=
  .map [(.ofString "color", .bool l.color),
    (.ofString "show_headers", .bool l.showHeadings),
    (.ofString "show_line_numbers", .bool l.showLineNumbers),
    (.ofString "header_separator", .text l.separator),
    (.ofString "null_separator", .bool l.nullSeparator),
    (.ofString "count", match l.count with
      | some n => .int n
      | none => .null)]

end Layout

namespace Limits

def fields : List String := ["max_concurrent", "max_bytes_per_file"]

def checkFields (entries : List (Data × Data)) : Checked Limits :=
  let d : Limits := {}
  Field.onlyKnown fields entries <|
    Limits.mk
      <$> Field.withDefault entries "max_concurrent" d.workers Field.positive
      <*> Field.withDefault entries "max_bytes_per_file" d.maxBytes Field.positive

def check : Data → Checked Limits := Field.record "LimitsConfig" checkFields

def toData (l : Limits) : Data :=
  .map [(.ofString "max_concurrent", .int l.workers),
    (.ofString "max_bytes_per_file", .int l.maxBytes)]

end Limits

namespace Logging

def fields : List String := ["level", "format"]

/-- The severity that a value names. -/
def checkLevel (d : Data) : Checked Severity :=
  (Field.text d).andThen fun word =>
    match Severity.ofWord? word with
    | some severity => .passed severity
    | none => .fail d (.refused ("Invalid logging level: " ++ String.ofList word))

def checkFields (entries : List (Data × Data)) : Checked Logging :=
  let d : Logging := {}
  Field.onlyKnown fields entries <|
    Logging.mk
      <$> Field.withDefault entries "level" d.level checkLevel
      <*> Field.withDefault entries "format" d.format Field.text

def check : Data → Checked Logging := Field.record "LoggingConfig" checkFields

def toData (l : Logging) : Data :=
  .map [(.ofString "level", .ofString l.level.name), (.ofString "format", .text l.format)]

end Logging

namespace Settings

def fields : List String := ["discovery", "search", "output", "limits", "logging"]

def checkFields (entries : List (Data × Data)) : Checked Settings :=
  Field.onlyKnown fields entries <|
    Settings.mk
      <$> Field.withDefault entries "discovery" {} Discovery.check
      <*> Field.withDefault entries "search" {} Matching.check
      <*> Field.withDefault entries "output" {} Layout.check
      <*> Field.withDefault entries "limits" {} Limits.check
      <*> Field.withDefault entries "logging" {} Logging.check

def check : Data → Checked Settings := Field.record "MarksConfig" checkFields

def toData (s : Settings) : Data :=
  .map [(.ofString "discovery", s.discovery.toData),
    (.ofString "search", s.matching.toData),
    (.ofString "output", s.layout.toData),
    (.ofString "limits", s.limits.toData),
    (.ofString "logging", s.logging.toData)]

/-- The items of a list in a message. -/
def listText (texts : List Text) : Text := (Data.list (texts.map .text)).literal

/-- What is allowed but hardly meant. -/
def warnings (s : Settings) : List Text :=
  let shared := s.sharedExtensions
  (if s.discovery.noOrg && s.discovery.noMarkdown then
    ["Both org and markdown files are disabled, nothing will be searched".toList] else [])
  ++ (if shared.isEmpty then [] else
    ["Extensions listed for both org and markdown are treated as markdown: ".toList
      ++ listText shared])
  ++ (if s.matching.cutoff.isZero then
    ["Fuzzy score cutoff of 0 makes every fuzzy term match every line".toList] else [])
  ++ (if 64 < s.limits.workers then
    ["Very high max_concurrent (".toList ++ Text.ofNat s.limits.workers
      ++ ") may exhaust file handles".toList] else [])

end Settings

end OutlineSearch
