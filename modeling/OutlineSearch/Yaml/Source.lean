import OutlineSearch.Text.Quoted

/-!
# Reading YAML text

A place in a YAML text, with the column that indentation is measured by, and the classes
of characters that the grammar speaks of.
-/

namespace OutlineSearch.Yaml

/-- Why a text cannot be read as a value. -/
inductive Error where
  /-- The text does not follow the grammar, or a value does not fit its tag. -/
  | malformed (reason : String) (line : Option Nat)
  /-- A scalar is written like a value of its type and denotes none. -/
  | badValue (message : String)
  /-- A scalar that is tagged as a truth value is no word for one. -/
  | unknownWord (word : Text)
  /-- A scalar that is tagged as a number is empty. -/
  | emptyNumber
  /-- An escape asks for a character far beyond the range of characters. -/
  | codeTooLarge
  /-- A number has so many parts that a unit is beyond the range of floating-point numbers. -/
  | unitTooLarge
  /-- A scalar that is tagged as a date does not look like one. -/
  | noStamp
  /-- A mapping that is tagged as a date. -/
  | mappingAsStamp
  /-- The reader runs out of stack. -/
  | tooDeep
deriving Repr, DecidableEq

def Error.message : Error → String
  | .malformed reason (some line) => reason ++ s!" in line {line}"
  | .malformed reason none => reason
  | .badValue message => message
  | .unknownWord word => String.ofList word.quoted
  | .emptyNumber => "string index out of range"
  | .codeTooLarge => "Python int too large to convert to C int"
  | .unitTooLarge => "int too large to convert to float"
  | .noStamp => "'NoneType' object has no attribute 'groupdict'"
  | .mappingAsStamp => "expected string or bytes-like object, got 'list'"
  | .tooDeep => "maximum recursion depth exceeded"

def isBreak (c : Char) : Bool :=
  c == '\n' || c == '\r' || c.toNat == 0x85 || c.toNat == 0x2028 || c.toNat == 0x2029

/-- Whether a character is a space or a tab. -/
def isWhite (c : Char) : Bool := c == ' ' || c == '\t'

/-- Whether nothing or a line break comes next. -/
def endsLine : Option Char → Bool
  | none => true
  | some c => isBreak c

/-- Whether nothing, a space or a line break comes next. -/
def endsItem : Option Char → Bool
  | none => true
  | some c => c == ' ' || isBreak c

/-- Whether nothing, white space or a line break comes next. -/
def endsWord : Option Char → Bool
  | none => true
  | some c => isWhite c || isBreak c

/-- Whether a character may stand in an anchor, a tag handle or the name of a directive. -/
def isNameChar (c : Char) : Bool := c.isAlphanum || c == '-' || c == '_'

/-- The mark that may stand in front of a text to tell its encoding. -/
def byteOrderMark : Char := Char.ofNat 0xFEFF

/-- Whether a character may stand in a YAML text at all. -/
def isAllowed (c : Char) : Bool :=
  let n := c.toNat
  n == 9 || n == 10 || n == 13 || (0x20 ≤ n && n ≤ 0x7E) || n == 0x85
    || (0xA0 ≤ n && n ≤ 0xFFFD) || 0x10000 ≤ n

/-- A place in a text. -/
structure Source where
  /-- What has not been read. -/
  rest : Text
  column : Nat
  line : Nat
  /-- The number of characters that have been read. -/
  index : Nat
deriving Repr, DecidableEq

namespace Source

def ofText (text : Text) : Source := ⟨text, 0, 0, 0⟩

def peek (s : Source) : Option Char := s.rest.head?

def isAt (c : Char) (s : Source) : Bool := s.peek == some c

def next (s : Source) : Source :=
  match s.rest with
  | [] => s
  | c :: rest =>
    if isBreak c && !(c == '\r' && rest.head? == some '\n') then
      ⟨rest, 0, s.line + 1, s.index + 1⟩
    else if c == byteOrderMark then ⟨rest, s.column, s.line, s.index + 1⟩
    else ⟨rest, s.column + 1, s.line, s.index + 1⟩

def skip (s : Source) : Nat → Source
  | 0 => s
  | n + 1 => s.next.skip n

def takeWhile (p : Char → Bool) (s : Source) : Text × Source :=
  let taken := s.rest.takeWhile p
  (taken, s.skip taken.length)

def dropWhile (p : Char → Bool) (s : Source) : Source := (s.takeWhile p).2

def dropSpaces (s : Source) : Source := s.dropWhile (· == ' ')

/-- Takes a line break, which counts as a line feed unless it is one of the two separators
of lines and paragraphs. -/
def takeBreak (s : Source) : Text × Source :=
  match s.rest with
  | '\r' :: '\n' :: _ => (['\n'], s.skip 2)
  | c :: _ =>
    if c.toNat == 0x2028 || c.toNat == 0x2029 then ([c], s.next)
    else if isBreak c then (['\n'], s.next)
    else ([], s)
  | [] => ([], s)

/-- Whether a mark that separates documents stands here. -/
def isSeparator (s : Source) : Bool :=
  ("---".toList.isPrefixOf s.rest || "...".toList.isPrefixOf s.rest) && endsWord s.rest[3]?

def dropComment (s : Source) : Source :=
  if s.isAt '#' then s.dropWhile fun c => !isBreak c else s

def refuse {α : Type} (s : Source) (reason : String) : Except Error α :=
  .error (.malformed reason (some (s.line + 1)))

/-- Passes what may follow on a line that has to end: spaces and a comment. -/
def endLine (s : Source) : Except Error Source :=
  let s := s.dropSpaces.dropComment
  if endsLine s.peek then .ok s.takeBreak.2 else s.refuse "expected the end of the line"

end Source

end OutlineSearch.Yaml
