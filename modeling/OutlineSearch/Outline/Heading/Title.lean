import OutlineSearch.Outline.Heading.Basic
import OutlineSearch.Text.Blank
import OutlineSearch.Text.Letter

/-!
# Heading lines

A heading line is a run of markers, a space, and then, each optional, a state, a priority
in a cookie such as `[#A]`, a title, and a block of tags between colons.
-/

namespace OutlineSearch.Heading

/-- The state at the start of a title, and what follows it. -/
def takeTodo (text : Text) : Option Todo × Text :=
  let word := text.takeWhile Char.isUpper
  match text.dropWhile Char.isUpper with
  | ' ' :: rest =>
    if word.isEmpty then (none, text) else (some ⟨word⟩, Text.trimLeft rest)
  | _ => (none, text)

/-- The priority at the start of a title, and what follows it. -/
def takePriority (text : Text) : Option Priority × Text :=
  match text with
  | '[' :: '#' :: rest =>
    let token := rest.takeWhile Text.isAlphanumeric
    match rest.dropWhile Text.isAlphanumeric with
    | ']' :: rest =>
      if token.isEmpty then (none, text) else (some ⟨token⟩, Text.trimLeft rest)
    | _ => (none, text)
  | _ => (none, text)

/-- Splits state and priority off a title. -/
def takeMarks (text : Text) : Option Todo × Option Priority × Text :=
  let (todo, rest) := takeTodo text.trimLeft
  let (priority, rest) := takePriority rest
  (todo, priority, rest)

def isTag (text : Text) : Bool := !text.isEmpty && text.all Text.isAlphanumeric

/-- The tags of a block such as `:a:b:`; `none` if the word is no such block. -/
def tagsOfBlock? (word : Text) : Option (List Text) :=
  match Text.splitOnChar ':' word with
  | [] :: pieces =>
    let tags := pieces.dropLast
    if pieces.getLast? = some [] && !tags.isEmpty && tags.all isTag then some tags else none
  | _ => none

/-- The last word of a text and what stands before it. -/
def splitLastWord (text : Text) : Text × Text :=
  let reversed := text.trimRight.reverse
  ((reversed.dropWhile fun c => !Text.isBlank c).reverse,
    (reversed.takeWhile fun c => !Text.isBlank c).reverse)

/-- Splits the block of tags off a title, together with the blank in front of it. -/
def takeTags (text : Text) : List Text × Text :=
  let (before, word) := splitLastWord text
  match tagsOfBlock? word with
  | some tags => (tags, before.dropLast)
  | none => ([], text)

/-- Reads the line with number `number` as a heading, without the lines that follow. -/
def ofLine? (kind : OutlineKind) (number : Nat) (line : Text) : Option Heading :=
  let markers := line.takeWhile (· == kind.marker)
  match line.dropWhile (· == kind.marker) with
  | ' ' :: rest =>
    if markers.isEmpty then none
    else
      let (todo, priority, rest) := takeMarks rest
      let (tags, title) := takeTags rest
      some { line := number
             depth := markers.length
             title := title.trim
             tags := distinct tags
             properties := []
             todo := todo
             priority := priority
             timestamp := none }
  | _ => none

/-- Reads a line as a heading, where the number of the line is any value. -/
def checkLine (kind : OutlineKind) (number : Data) (line : Text) : Checked (Option Heading) :=
  match ofLine? kind 1 line with
  | none => .passed none
  | some h =>
    (fun n => some { h with line := n })
      <$> (Field.integerFrom 1 number).inside "line_number".toList

end OutlineSearch.Heading
