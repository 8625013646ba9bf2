import OutlineSearch.Text.Basic

/-!
# Tags

A tag says of which type a node is.  A plain scalar without a tag has the type that its
text looks like.
-/

namespace OutlineSearch.Yaml

/-- The type of a node. -/
inductive Tag where
  | null
  | bool
  | int
  | float
  | binary
  | timestamp
  | str
  | seq
  | map
  | set
  | omap
  | pairs
  | merge
  | value
  | other (name : Text)
deriving Repr, DecidableEq

namespace Tag

/-- What the names of all common tags begin with. -/
def base : Text := "tag:yaml.org,2002:".toList

/-- The tags that have a name in the common space. -/
def common : List (String × Tag) :=
  [("null", null), ("bool", bool), ("int", int), ("float", float), ("binary", binary),
   ("timestamp", timestamp), ("str", str), ("seq", seq), ("map", map), ("set", set),
   ("omap", omap), ("pairs", pairs), ("merge", merge), ("value", value)]

/-- The tag with a name. -/
def ofName (name : Text) : Tag :=
  match common.find? fun (word, _) => name = base ++ word.toList with
  | some (_, tag) => tag
  | none => other name

/-- Words for truth values. -/
def boolWords : List String :=
  ["yes", "Yes", "YES", "no", "No", "NO", "true", "True", "TRUE", "false", "False", "FALSE",
   "on", "On", "ON", "off", "Off", "OFF"]

/-- Words for nothing. -/
def nullWords : List String := ["~", "null", "Null", "NULL", ""]

/-- Without a sign. -/
def unsigned : Text → Text
  | '+' :: rest => rest
  | '-' :: rest => rest
  | t => t

/-- Whether a character is a decimal digit or an underscore. -/
def isGrouped (c : Char) : Bool := c.isDigit || c == '_'

/-- Whether a text is a decimal digit followed by digits and underscores. -/
def isGroup : Text → Bool
  | [] => false
  | c :: rest => c.isDigit && rest.all isGrouped

/-- Whether a text is a number from 0 to 59, with one or two digits. -/
def isSixtieth : Text → Bool
  | [c] => c.isDigit
  | [c, d] => '0' ≤ c && c ≤ '5' && d.isDigit
  | _ => false

def isInt (t : Text) : Bool :=
  match unsigned t with
  | '0' :: 'b' :: rest => !rest.isEmpty && rest.all fun c => c == '0' || c == '1' || c == '_'
  | '0' :: 'x' :: rest =>
    !rest.isEmpty && rest.all fun c =>
      isGrouped c || ('a' ≤ c && c ≤ 'f') || ('A' ≤ c && c ≤ 'F')
  | '0' :: rest => rest.all fun c => ('0' ≤ c && c ≤ '7') || c == '_'
  | t =>
    match Text.splitOnChar ':' t with
    | first :: parts => isGroup first && parts.all isSixtieth
    | [] => false

/-- Whether a text is an exponent with its sign, or nothing. -/
def isExponent : Text → Bool
  | [] => true
  | e :: sign :: digits =>
    (e == 'e' || e == 'E') && (sign == '+' || sign == '-') && !digits.isEmpty
      && digits.all Char.isDigit
  | _ => false

/-- Whether a text is digits, a point, more digits and an exponent. -/
def isDecimal (t : Text) : Bool :=
  let whole := t.takeWhile isGrouped
  match t.dropWhile isGrouped with
  | '.' :: rest => isGroup whole && isExponent (rest.dropWhile isGrouped)
  | _ => false

/-- Whether a text is a point, digits and an exponent. -/
def isFraction : Text → Bool
  | '.' :: rest => isGroup (rest.takeWhile isGrouped) && isExponent (rest.dropWhile isGrouped)
  | _ => false

/-- Whether a text is a number in units of which sixty make the next, with a point. -/
def isSexagesimal (t : Text) : Bool :=
  let fraction := (t.dropWhile (· != '.')).drop 1
  match Text.splitOnChar ':' (t.takeWhile (· != '.')) with
  | first :: part :: parts =>
    t.contains '.' && isGroup first && (part :: parts).all isSixtieth && fraction.all isGrouped
  | _ => false

def isFloat (t : Text) : Bool :=
  let u := unsigned t
  isDecimal u || isFraction t || isSexagesimal u
    || [".inf", ".Inf", ".INF"].any (fun w => u = w.toList)
    || [".nan", ".NaN", ".NAN"].any (fun w => t = w.toList)

/-- The parts of a date and a time as they are written. -/
structure Stamp where
  year : Text
  month : Text
  day : Text
  hour : Text := []
  minute : Text := []
  second : Text := []
  fraction : Text := []
  /-- The sign, the hours and the minutes of the distance from universal time; the sign is
  `Z` for universal time itself. -/
  zone : Option (Char × Text × Text) := none
deriving Repr, DecidableEq

/-- Takes between `least` and `most` digits, as many as there are. -/
def takeDigits (least most : Nat) (t : Text) : Option (Text × Text) :=
  let digits := (t.take most).takeWhile Char.isDigit
  if least ≤ digits.length then some (digits, t.drop digits.length) else none

def takeChar (c : Char) : Text → Option Text
  | [] => none
  | d :: rest => if c = d then some rest else none

/-- Reads the distance from universal time at the end of a stamp. -/
def readZone (t : Text) : Option (Option (Char × Text × Text)) :=
  match t.dropWhile fun c => c == ' ' || c == '\t' with
  | [] => if t.isEmpty then some none else none
  | ['Z'] => some (some ('Z', [], []))
  | sign :: rest =>
    if sign = '+' || sign = '-' then do
      let (hours, rest) ← takeDigits 1 2 rest
      match rest with
      | [] => some (some (sign, hours, []))
      | ':' :: rest =>
        let (minutes, rest) ← takeDigits 2 2 rest
        if rest.isEmpty then some (some (sign, hours, minutes)) else none
      | _ => none
    else none

/-- Passes what stands between date and time: the letter T or white space. -/
def dropTimeMark : Text → Option Text
  | [] => none
  | c :: rest =>
    if c = 'T' || c = 't' then some rest
    else if c = ' ' || c = '\t' then some (rest.dropWhile fun c => c == ' ' || c == '\t')
    else none

/-- Reads a date, which may be followed by a time.  Without a time, month and day have two
digits if `strict`. -/
def readStamp (strict : Bool) (t : Text) : Option Stamp := do
  let (year, t) ← takeDigits 4 4 t
  let t ← takeChar '-' t
  let (month, t) ← takeDigits 1 2 t
  let t ← takeChar '-' t
  let (day, t) ← takeDigits 1 2 t
  if t.isEmpty then
    if strict && (month.length < 2 || day.length < 2) then none
    else some { year := year, month := month, day := day }
  else
    let t ← dropTimeMark t
    let (hour, t) ← takeDigits 1 2 t
    let t ← takeChar ':' t
    let (minute, t) ← takeDigits 2 2 t
    let t ← takeChar ':' t
    let (second, t) ← takeDigits 2 2 t
    let (fraction, t) := match t with
      | '.' :: rest => (rest.takeWhile Char.isDigit, rest.dropWhile Char.isDigit)
      | t => ([], t)
    let zone ← readZone t
    some ⟨year, month, day, hour, minute, second, fraction, zone⟩

/-- The tag of a plain scalar without a tag of its own. -/
def ofPlain (t : Text) : Tag :=
  if boolWords.any (fun w => t = w.toList) then bool
  else if isFloat t then float
  else if isInt t then int
  else if t = ['<', '<'] then merge
  else if nullWords.any (fun w => t = w.toList) then null
  else if (readStamp true t).isSome then timestamp
  else if t = ['='] then value
  else str

def withoutFinalBreak (t : Text) : Text := if t.getLast? = some '\n' then t.dropLast else t

/-- The tag of a scalar in quotes that asks for the type that its text looks like.  A line feed
at the end does not matter, unless there is nothing else. -/
def ofQuoted (t : Text) : Tag := if t = ['\n'] then str else ofPlain (withoutFinalBreak t)

end Tag

end OutlineSearch.Yaml
