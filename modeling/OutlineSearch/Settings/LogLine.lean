import OutlineSearch.Settings.Basic
import OutlineSearch.Text.Letter
import OutlineSearch.Text.Numeral
import OutlineSearch.Text.Quoted

/-!
# Lines of the log

A line of the log is made from a format, in which placeholders such as `%(message)s` stand
for the parts of an entry.
-/

namespace OutlineSearch

/-- Something that is worth telling. -/
structure LogEntry where
  /-- The part of the program that tells it. -/
  source : Text
  severity : Severity
  message : Text
deriving Repr, DecidableEq

/-- What stands in a format for a part of an entry. -/
structure Placeholder where
  /-- The name of the part. -/
  key : Text
  /-- Signs that say how the part is filled up. -/
  signs : Text
  width : Nat
  precision : Option Nat
  /-- The letter for the type of the part. -/
  conversion : Char
deriving Repr, DecidableEq

namespace Placeholder

/-- The signs that may stand behind the name. -/
def signChars : Text := "#0+ -".toList

/-- The letters for types. -/
def conversions : Text := "diouxefgcrsa%".toList

/-- Takes a number, or a star in its place. -/
def takeSize (t : Text) : Text × Text :=
  match t with
  | '*' :: rest => (['*'], rest)
  | t => (t.takeWhile Text.isDecimal, t.dropWhile Text.isDecimal)

/-- Reads a placeholder behind its percent sign and the name in parentheses: the signs, the
width, the precision behind a point, and the letter. -/
def ofParts (key rest : Text) : Option (Placeholder × Text) :=
  let signs := rest.takeWhile signChars.contains
  let (width, rest) := takeSize (rest.dropWhile signChars.contains)
  let (precision, rest) : Option Text × Text := match rest with
    | '.' :: rest =>
      let (digits, rest) := takeSize rest
      (some digits, rest)
    | rest => (none, rest)
  match rest with
  | conversion :: rest =>
    if precision = some [] then none
    else some (⟨key, signs, Text.digitsValue width, precision.map Text.digitsValue, conversion⟩,
      rest)
  | [] => none

/-- Reads a placeholder behind its percent sign. -/
def ofText (t : Text) : Option (Placeholder × Text) :=
  match t with
  | '(' :: rest =>
    match rest.dropWhile Text.isWordChar with
    | ')' :: behind =>
      let key := rest.takeWhile Text.isWordChar
      if key.isEmpty then none else ofParts key behind
    | _ => none
  | _ => none

/-- Whether the letter of a placeholder is one of those for types, case disregarded. -/
def isKnown (p : Placeholder) : Bool :=
  conversions.any fun c => (Text.caseVariants c).contains p.conversion

def fill (p : Placeholder) (t : Text) : Text :=
  let blanks := List.replicate (p.width - t.length) ' '
  if p.signs.contains '-' then t ++ blanks else blanks ++ t

def writeText (p : Placeholder) (t : Text) : Option Text :=
  let cut (t : Text) : Text := match p.precision with
    | some n => t.take n
    | none => t
  match p.conversion with
  | 's' => some (p.fill (cut t))
  | 'r' => some (p.fill (cut t.quoted))
  | _ => none

def writeNumber (p : Placeholder) (n : Nat) : Option Text :=
  if p.conversion = 's' || p.conversion = 'r' then p.writeText (Text.ofNat n)
  else if p.conversion = 'd' || p.conversion = 'i' || p.conversion = 'u' then
    let sign : Text :=
      if p.signs.contains '+' then ['+'] else if p.signs.contains ' ' then [' '] else []
    let least :=
      if p.signs.contains '0' && !p.signs.contains '-' then p.width - sign.length else 0
    some (p.fill (sign ++ Text.padded (max least (p.precision.getD 0)) n))
  else none

/-- Writes the part of an entry that is named; `none` if there is no such part or it is of
another type. -/
def write (p : Placeholder) (e : LogEntry) : Option Text :=
  match String.ofList p.key with
  | "name" => p.writeText e.source
  | "levelname" => p.writeText e.severity.name.toList
  | "levelno" => p.writeNumber e.severity.rank
  | "message" => p.writeText e.message
  | _ => none

end Placeholder

namespace Logging

/-- The format; an empty one stands for the message alone. -/
def effectiveFormat (l : Logging) : Text :=
  if l.format.isEmpty then "%(message)s".toList else l.format

/-- Whether a placeholder begins somewhere in a text. -/
def holdsPlaceholder : Text → Bool
  | [] => false
  | c :: rest =>
    (c == '%' && (((Placeholder.ofText rest).map (·.1.isKnown)).getD false))
      || holdsPlaceholder rest

/-- Whether a format can be used: there has to be at least one placeholder in it. -/
def isUsable (l : Logging) : Bool := holdsPlaceholder l.effectiveFormat

/-- Fills in a format; `limit` is a bound on the number of its characters. -/
def fillIn (e : LogEntry) : Nat → Text → Option Text
  | 0, _ => some []
  | _, [] => some []
  | limit + 1, c :: rest =>
    if c != '%' then (c :: ·) <$> fillIn e limit rest
    else match rest with
      | '%' :: rest => ('%' :: ·) <$> fillIn e limit rest
      | rest => do
        let (p, rest) ← Placeholder.ofText rest
        let part ← p.write e
        let more ← fillIn e limit rest
        some (part ++ more)

/-- The line for an entry; nothing if the entry is not grave enough or does not fit the
format. -/
def line (l : Logging) (e : LogEntry) : Text :=
  if e.severity.rank < l.level.rank then []
  else match fillIn e (l.effectiveFormat.length + 1) l.effectiveFormat with
    | some t => t ++ ['\n']
    | none => []

def lines (l : Logging) (entries : List LogEntry) : Text := entries.flatMap l.line

end Logging

end OutlineSearch
