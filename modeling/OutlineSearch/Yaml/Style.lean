import OutlineSearch.Text.Quoted
import OutlineSearch.Yaml.Source
import OutlineSearch.Yaml.Tag

/-!
# Styles of scalars

A text is written plain if it is read back as the same text, else between single quotes,
and between double quotes if it holds anything that needs an escape.  A line that has grown
too long is broken at a space.
-/

namespace OutlineSearch.Yaml

/-- How a text is written. -/
inductive Style where
  | plain
  | singleQuoted
  | doubleQuoted
deriving Repr, DecidableEq

namespace Style

/-- Characters that mean something at the beginning of a scalar. -/
def leadingMarks : Text := "#,[]\x7b\x7d&*!|>'\"%@\x60".toList

/-- Whether nothing, a blank, a line break or a NUL comes next. -/
def isSpacing : Option Char → Bool
  | none => true
  | some c => isWhite c || isBreak c || c == Char.ofNat 0

/-- Whether the first character of a text would be taken for the mark of something else. -/
def startsMarked : Text → Bool
  | [] => false
  | c :: rest =>
    leadingMarks.contains c || ("?:-".toList.contains c && isSpacing rest.head?)
      || "---".toList.isPrefixOf (c :: rest) || "...".toList.isPrefixOf (c :: rest)

/-- Whether the end of a key or the beginning of a comment seems to stand behind `before`. -/
def holdsMark (before : Char) : Text → Bool
  | [] => false
  | c :: rest =>
    (c == ':' && isSpacing rest.head?) || (c == '#' && isSpacing (some before))
      || holdsMark c rest

/-- Whether a text would be taken for something else if it had no quotes. -/
def needsQuotes (t : Text) : Bool :=
  startsMarked t || (match t with
    | [] => true
    | c :: rest => holdsMark c rest)

/-- Whether a character can stand in a scalar without an escape. -/
def isSimple (c : Char) : Bool := c == '\n' || (0x20 ≤ c.toNat && c.toNat ≤ 0x7E)

/-- Whether a text begins or ends with a space or a line feed. -/
def hasOuterSpace (t : Text) : Bool :=
  let isOuter (c : Option Char) : Bool := c == some ' ' || c == some '\n'
  isOuter t.head? || isOuter t.getLast?

def allowsPlain (t : Text) : Bool :=
  Tag.ofPlain t == .str && t.all isSimple && !t.contains '\n' && !hasOuterSpace t
    && !needsQuotes t

def allowsSingle (t : Text) : Bool :=
  t.all isSimple && !Text.hasInfix [' ', '\n'] t && !Text.hasInfix ['\n', ' '] t

/-- The style of a text.  A key that stands on one line with its value is not broken. -/
def ofText (isKey : Bool) (t : Text) : Style :=
  if allowsPlain t then .plain
  else if allowsSingle t && !(isKey && t.any isBreak) then .singleQuoted
  else .doubleQuoted

end Style

/-- A line that is longer than this is broken at the next space. -/
def lineWidth : Nat := 80

/-- A text that has been written up to a column. -/
structure Written where
  text : Text
  column : Nat
deriving Repr, DecidableEq

namespace Written

/-- Nothing, written at a column. -/
def start (column : Nat) : Written := ⟨[], column⟩

/-- Writes characters that break no line. -/
def add (w : Written) (t : Text) : Written := ⟨w.text ++ t, w.column + t.length⟩

def breakLine (w : Written) (indent : Nat) : Written :=
  ⟨w.text ++ '\n' :: List.replicate indent ' ', indent⟩

end Written

/-- The class by which the characters of a text are put into runs. -/
def runClass (c : Char) : Char := if c == ' ' || c == '\n' then c else 'a'

/-- A text as runs of spaces, of line feeds and of other characters. -/
def runsOf : Text → List Text
  | [] => []
  | c :: rest =>
    match runsOf rest with
    | (d :: run) :: runs =>
      if runClass c = runClass d then (c :: d :: run) :: runs else [c] :: (d :: run) :: runs
    | runs => [c] :: runs

/-- Writes runs.  A single space in a line that is too long is replaced by the end of the
line, unless it is the first or the last run; a line feed is written as an empty line. -/
def writeRuns (mayBreak : Bool) (indent : Nat) : Bool → List Text → Written → Written
  | _, [], w => w
  | isFirst, run :: rest, w =>
    writeRuns mayBreak indent false rest <|
      if run.head? == some '\n' then Written.breakLine ⟨w.text ++ run, 0⟩ indent
      else if run = [' '] && mayBreak && lineWidth < w.column && !isFirst && !rest.isEmpty then
        w.breakLine indent
      else w.add run

/-- A text in which every single quote is written twice. -/
def doubleQuotes (t : Text) : Text := t.flatMap fun c => if c == '\'' then [c, c] else [c]

/-- The letter that stands for a character behind a backslash. -/
def escapeLetter? (c : Char) : Option Char :=
  match c.toNat with
  | 0 => some '0'
  | 7 => some 'a'
  | 8 => some 'b'
  | 9 => some 't'
  | 10 => some 'n'
  | 11 => some 'v'
  | 12 => some 'f'
  | 13 => some 'r'
  | 27 => some 'e'
  | 34 => some '"'
  | 92 => some '\\'
  | 0x85 => some 'N'
  | 0xA0 => some '_'
  | 0x2028 => some 'L'
  | 0x2029 => some 'P'
  | _ => none

/-- The capital hexadecimal digits of a number, at least `width` of them. -/
def capitalHex (width n : Nat) : Text := (Text.hex width n).map Char.toUpper

/-- The escape for a character, if it needs one between double quotes. -/
def escape? (c : Char) : Option Text :=
  match escapeLetter? c with
  | some letter => some ['\\', letter]
  | none =>
    if 0x20 ≤ c.toNat && c.toNat ≤ 0x7E then none
    else if c.toNat ≤ 0xFF then some ('\\' :: 'x' :: capitalHex 2 c.toNat)
    else if c.toNat ≤ 0xFFFF then some ('\\' :: 'u' :: capitalHex 4 c.toNat)
    else some ('\\' :: 'U' :: capitalHex 8 c.toNat)

/-- Ends a line inside of double quotes.  A space that comes next gets a backslash, because
white space at the beginning of a line does not count. -/
def breakQuoted (indent : Nat) (following : Option Char) (w : Written) : Written :=
  let w := (w.add ['\\']).breakLine indent
  if following == some ' ' then w.add ['\\'] else w

/-- Writes what stands between double quotes, except for the first character.  A line that
is too long ends in front of a space, behind an escape, or between an escape and the
character that follows; `behindEscape` tells whether an escape has just been written. -/
def writeEscaped (mayBreak : Bool) (indent : Nat) : Bool → Text → Written → Written
  | _, [], w => w
  | behindEscape, c :: rest, w =>
    match escape? c with
    | some escape =>
      let w := w.add escape
      let breaks := mayBreak && !rest.isEmpty && lineWidth + 1 < w.column
      writeEscaped mayBreak indent true rest
        (if breaks then breakQuoted indent rest.head? w else w)
    | none =>
      let breaks := mayBreak && !rest.isEmpty && (c == ' ' || behindEscape)
        && lineWidth < w.column
      writeEscaped mayBreak indent false rest
        ((if breaks then breakQuoted indent (some c) w else w).add [c])

/-- Writes a text at a column.  Lines after the first are indented; a key is never broken. -/
def writeScalar (isKey : Bool) (indent column : Nat) (t : Text) : Text :=
  match Style.ofText isKey t with
  | .plain => (writeRuns (!isKey) indent true (runsOf t) (.start column)).text
  | .singleQuoted =>
    let w := (Written.start column).add ['\'']
    ((writeRuns (!isKey) indent true (runsOf (doubleQuotes t)) w).add ['\'']).text
  | .doubleQuoted =>
    let w := (Written.start column).add ['"']
    let w := match t with
      | [] => w
      | c :: rest =>
        writeEscaped (!isKey) indent (escape? c).isSome rest (w.add ((escape? c).getD [c]))
    (w.add ['"']).text

end OutlineSearch.Yaml
