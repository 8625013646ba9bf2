import OutlineSearch.Outline.Timestamp.Basic
import OutlineSearch.Text.Blank
import OutlineSearch.Text.Case
import OutlineSearch.Text.Letter
import OutlineSearch.Text.Quoted

/-!
# Reading timestamps

A timestamp is an optional label, a bracket, a date, and then, each behind blanks and each
optional: a weekday of three letters, a time or a span of times, and an interval.  What
could be read as the next part is read as such, unless the bracket cannot be reached that
way; then it belongs to the interval.  Anything behind the closing bracket is ignored.
-/

namespace OutlineSearch.Timestamp

/-- Why a text is no timestamp.  The text is given without surrounding blanks. -/
inductive Error where
  | malformed (text : Text)
  | mismatched (text : Text)
  /-- A label that looks like one of the two and is none, because its upper case differs. -/
  | unknownLabel (label : Text)
  | impossible (text : Text) (reason : CalendarError)
deriving Repr, DecidableEq

def Error.message : Error → String
  | .malformed text => "Malformed timestamp: " ++ String.ofList text.quoted
  | .mismatched text => "Mismatched timestamp brackets: " ++ String.ofList text.quoted
  | .unknownLabel label => String.ofList label.quoted
  | .impossible text reason =>
    "Invalid date or time in " ++ String.ofList text.quoted ++ ": " ++ reason.message

/-- Whether a character closes a timestamp. -/
def isCloser (c : Char) : Bool := c == '>' || c == ']'

/-- The closing bracket that fits an opening one. -/
def closerOf (c : Char) : Char := if c = '<' then '>' else ']'

def takeExactly (p : Char → Bool) : Nat → Text → Option (Text × Text)
  | 0, text => some ([], text)
  | _ + 1, [] => none
  | count + 1, c :: rest =>
    if p c then (takeExactly p count rest).map fun (taken, rest) => (c :: taken, rest)
    else none

def readNumber? (count : Nat) (text : Text) : Option (Nat × Text) :=
  (takeExactly Text.isDecimal count text).map fun (digits, rest) => (digits.digitsValue, rest)

def readChar? (c : Char) : Text → Option Text
  | [] => none
  | d :: rest => if c = d then some rest else none

/-- Reads blanks, at least one. -/
def readBlanks? (text : Text) : Option Text :=
  if (text.head?.map Text.isBlank).getD false then some text.trimLeft else none

/-- Whether a character equals a capital letter of a label when case is disregarded. -/
def isLetterOf (letter c : Char) : Bool :=
  letter == c || (Text.caseVariants letter).contains c

/-- Reads a word, case disregarded, and returns it as it is written. -/
def readWord? : Text → Text → Option (Text × Text)
  | [], text => some ([], text)
  | _ :: _, [] => none
  | letter :: word, c :: rest =>
    if isLetterOf letter c then (readWord? word rest).map fun (read, rest) => (c :: read, rest)
    else none

/-- Reads a label with its colon and the blanks behind it. -/
def readLabel? (text : Text) : Option (Text × Text) :=
  ["DEADLINE".toList, "SCHEDULED".toList].findSome? fun word => do
    let (label, rest) ← readWord? word text
    let rest ← readChar? ':' rest
    some (label, rest.trimLeft)

/-- Whether a character counts as a letter of a weekday: the ASCII letters, and the
characters that equal one of them when case is disregarded. -/
def isWeekdayLetter (c : Char) : Bool :=
  c.isAlpha || c.toNat == 0x130 || c.toNat == 0x131 || c.toNat == 0x17F || c.toNat == 0x212A

def readWeekday? (text : Text) : Option Text := do
  let rest ← readBlanks? text
  let (_, rest) ← takeExactly isWeekdayLetter 3 rest
  some rest

abbrev Time := Nat × Nat

def readTime? (text : Text) : Option (Time × Text) := do
  let (hour, rest) ← readNumber? 2 text
  let rest ← readChar? ':' rest
  let (minute, rest) ← readNumber? 2 rest
  some ((hour, minute), rest)

/-- Reads blanks and a time, or a span between two times. -/
def readSpan? (text : Text) : Option (Time × Option Time × Text) := do
  let rest ← readBlanks? text
  let (start, rest) ← readTime? rest
  match readChar? '-' rest >>= readTime? with
  | some (finish, rest) => some (start, some finish, rest)
  | none => some (start, none, rest)

/-- Reads an optional interval and the closing bracket. -/
def readEnd? (text : Text) : Option (Option Text × Char) :=
  let body := text.takeWhile fun c => !isCloser c
  match text.dropWhile fun c => !isCloser c with
  | [] => none
  | closer :: _ =>
    if Text.isAllBlank body then some (none, closer)
    else (readBlanks? body).map fun interval => (some (Text.trimRight interval), closer)

/-- What stands behind the date. -/
structure Details where
  start : Option Time
  finish : Option Time
  interval : Option Text
  closer : Char
deriving Repr, DecidableEq

/-- Reads what stands behind date and weekday. -/
def readTimes? (text : Text) : Option Details :=
  (do
    let (start, finish, rest) ← readSpan? text
    let (interval, closer) ← readEnd? rest
    some ⟨some start, finish, interval, closer⟩)
  <|> (do
    let (interval, closer) ← readEnd? text
    some ⟨none, none, interval, closer⟩)

/-- Reads what stands behind the date. -/
def readDetails? (text : Text) : Option Details :=
  (readWeekday? text >>= readTimes?) <|> readTimes? text

/-- The parts of a timestamp as they are written. -/
structure Parts where
  label : Option Text
  opener : Char
  year : Nat
  month : Nat
  day : Nat
  details : Details
deriving Repr, DecidableEq

/-- Reads everything from the opening bracket on. -/
def readBracket? (label : Option Text) : Text → Option Parts
  | [] => none
  | opener :: rest =>
    if opener = '<' || opener = '[' then do
      let (year, rest) ← readNumber? 4 rest
      let rest ← readChar? '-' rest
      let (month, rest) ← readNumber? 2 rest
      let rest ← readChar? '-' rest
      let (day, rest) ← readNumber? 2 rest
      let details ← readDetails? rest
      some ⟨label, opener, year, month, day, details⟩
    else none

def readParts? (line : Text) : Option Parts :=
  let text := line.trimLeft
  match readLabel? text with
  | some (label, rest) => readBracket? (some label) rest
  | none => readBracket? none text

/-- The plan that an optional label announces. -/
def planOf : Option Text → Except Error Plan
  | none => .ok .plain
  | some label =>
    match Plan.ofLabel? label.upper with
    | some plan => .ok plan
    | none => .error (.unknownLabel label.upper)

/-- The dates and times that the parts of a timestamp denote. -/
def Parts.moments (p : Parts) : Except CalendarError (Moment × Option Clock) := do
  let (hour, minute) := p.details.start.getD (0, 0)
  let date ← Date.of? p.year p.month p.day
  let clock ← Clock.of? hour minute 0 0
  match p.details.finish with
  | none => .ok (⟨date, clock⟩, none)
  | some (hour, minute) => do
    let finish ← Clock.of? hour minute 0 0
    .ok (⟨date, clock⟩, some finish)

def parse (line : Text) : Except Error Timestamp :=
  match readParts? line with
  | none => .error (.malformed line.trim)
  | some p =>
    if closerOf p.opener ≠ p.details.closer then .error (.mismatched line.trim)
    else match planOf p.label with
      | .error e => .error e
      | .ok plan =>
        match p.moments with
        | .error reason => .error (.impossible line.trim reason)
        | .ok (start, finish) =>
          .ok { plan := plan
                isActive := p.opener = '<'
                start := start
                until? := finish
                interval := p.details.interval }

/-- Reads a timestamp, where a text that is none counts as no timestamp.  A label that
cannot be looked up remains an error. -/
def attempt (line : Text) : Except Error (Option Timestamp) :=
  match parse line with
  | .ok t => .ok (some t)
  | .error (.unknownLabel label) => .error (.unknownLabel label)
  | .error _ => .ok none

/-- Whether a line begins with one of the two labels, blanks and case disregarded. -/
def isLabelled (line : Text) : Bool :=
  let text := line.trimLeft.upper
  "DEADLINE:".toList.isPrefixOf text || "SCHEDULED:".toList.isPrefixOf text

/-- Reads the timestamp of a request: brackets may be left out, and a label is dropped in
favour of `plan`. -/
def ofRequest (plan : Plan) (value : Text) : Except Error Timestamp :=
  let text := value.trim
  let text : Text :=
    if isLabelled text then Text.trim ((text.dropWhile (· != ':')).drop 1) else text
  let bracketed := text.head? = some '<' || text.head? = some '['
  let text : Text := if bracketed then text else '<' :: text ++ ['>']
  (fun t => { t with plan := plan }) <$> parse text

end OutlineSearch.Timestamp
