import OutlineSearch.Data.Checked
import OutlineSearch.Text.Case
import OutlineSearch.Text.Numeral
import OutlineSearch.Text.Utf8

/-!
# Fields

Checks for the types of fields.  They are lenient where a value has one obvious reading:
a numeral stands for its number, a word such as `yes` for a truth value.
-/

namespace OutlineSearch.Field

open Checked

def text : Data → Checked Text
  | .text t => passed t
  | .bytes b =>
    match Utf8.decode b with
    | .ok t => passed t
    | .error _ => fail (.bytes b) .notUnicode
  | d => fail d .notText

def nonemptyText (d : Data) : Checked Text :=
  (text d).andThen fun t => if t.isEmpty then fail d .tooShort else passed t

def yesWords : List String := ["1", "t", "y", "on", "yes", "true"]

def noWords : List String := ["0", "f", "n", "no", "off", "false"]

/-- The truth value that a word stands for; the case of ASCII letters does not matter. -/
def boolOfWord? (word : Text) : Option Bool :=
  let word := String.ofList (word.map Char.toLower)
  if yesWords.contains word then some true
  else if noWords.contains word then some false
  else none

def bool : Data → Checked Bool
  | .bool b => passed b
  | .text t => match boolOfWord? t with
    | some b => passed b
    | none => fail (.text t) .unclearBool
  | .int n =>
    if n = 0 then passed false else if n = 1 then passed true else fail (.int n) .unclearBool
  | .float x => match x.toInt? with
    | some n =>
      if n = 0 then passed false else if n = 1 then passed true
      else fail (.float x) .unclearBool
    | none => fail (.float x) .notBool
  | .bytes b => match boolOfWord? (b.map fun x => Char.ofNat x.toNat) with
    | some v => passed v
    | none => fail (.bytes b) .unclearBool
  | d => fail d .notBool

/-- Whether a text is made of zeros. -/
def isZeros (t : Text) : Bool := t.all (· == '0')

/-- The digits of a numeral with single underscores between digits. -/
def asciiDigits? (t : Text) : Option Text :=
  if t.all fun c => c.isDigit || c == '_' then Text.ungroupedDigits? t else none

/-- The integer that a numeral denotes.  A fractional part of zeros is allowed. -/
def readInteger? (t : Text) : Option Int :=
  let t := t.trim
  let (signAllowed, t) := match t with
    | '+' :: rest => (false, rest)
    | _ => (true, t)
  let (negative, t) := match t with
    | '-' :: rest => (true, rest)
    | _ => (false, t)
  let whole := t.takeWhile (· != '.')
  let fraction := (t.dropWhile (· != '.')).drop 1
  match asciiDigits? whole with
  | some digits =>
    if (negative && !signAllowed) || !isZeros fraction then none
    else some (Binary64.signed negative (Text.digitsValue digits))
  | none => none

def integer : Data → Checked Int
  | .int n => passed n
  | .bool b => passed (if b then 1 else 0)
  | .text t => match readInteger? t with
    | some n => passed n
    | none => fail (.text t) .unreadableInteger
  | .bytes b => match readInteger? (b.map fun x => Char.ofNat x.toNat) with
    | some n => passed n
    | none => fail (.bytes b) .unreadableInteger
  | .float x => match x with
    | .nan | .infinite _ => fail (.float x) .infinite
    | _ => match x.toInt? with
      | none => fail (.float x) .fractional
      | some n =>
        if n.natAbs < Nat.pow 2 63 then passed n else fail (.float x) .integerTooLarge
  | d => fail d .notInteger

/-- The digits of a decimal fraction: the digits before and after the point.  One of them
must be there. -/
def readDigits? (t : Text) : Option (Text × Text × Text) :=
  let whole := t.takeWhile Char.isDigit
  let rest := t.dropWhile Char.isDigit
  let (fraction, rest) := match rest with
    | '.' :: rest => (rest.takeWhile Char.isDigit, rest.dropWhile Char.isDigit)
    | _ => ([], rest)
  if whole.isEmpty && fraction.isEmpty then none else some (whole, fraction, rest)

/-- The exponent behind the mark `e`; it is zero where there is no mark. -/
def readExponent? : Text → Option Int
  | [] => some 0
  | e :: rest =>
    if e != 'e' && e != 'E' then none
    else
      let (negative, digits) := match rest with
        | '-' :: rest => (true, rest)
        | '+' :: rest => (false, rest)
        | _ => (false, rest)
      if digits.isEmpty || !digits.all Char.isDigit then none
      else some (Binary64.signed negative (Text.digitsValue digits))

/-- The number that a decimal denotes, sign not included. -/
def readDecimal? (negative : Bool) (t : Text) : Option Binary64 :=
  match readDigits? t with
  | none => none
  | some (whole, fraction, rest) =>
    (readExponent? rest).map fun exponent =>
      Binary64.ofDecimal negative (Text.digitsValue (whole ++ fraction))
        (exponent - fraction.length)

/-- The number that a text without blanks and underscores denotes. -/
def readFloat? (t : Text) : Option Binary64 :=
  let (negative, t) := match t with
    | '-' :: rest => (true, rest)
    | '+' :: rest => (false, rest)
    | _ => (false, t)
  match String.ofList (t.map Char.toLower) with
  | "inf" | "infinity" => some (.infinite negative)
  | "nan" => some .nan
  | _ => readDecimal? negative t

def readNumber? (t : Text) : Option Binary64 :=
  let t := t.trim
  readFloat? <|
    if t.contains '_' && t.head? ≠ some '_' && t.getLast? ≠ some '_'
      && !Text.hasInfix ['_', '_'] t then t.filter (· != '_') else t

def number : Data → Checked Binary64
  | .float x => passed x
  | .bool b => passed (Binary64.ofNat (if b then 1 else 0))
  | .int n => match Binary64.ofInt n with
    | .infinite _ => fail (.int n) .notNumber
    | x => passed x
  | .text t => match readNumber? t with
    | some x => passed x
    | none => fail (.text t) .unreadableNumber
  | .bytes b => match readNumber? (b.map fun x => Char.ofNat x.toNat) with
    | some x => passed x
    | none => fail (.bytes b) .unreadableNumber
  | d => fail d .notNumber

/-- An integer of at least `bound`. -/
def integerFrom (bound : Nat) (d : Data) : Checked Nat :=
  (integer d).andThen fun n =>
    if (bound : Int) ≤ n then passed n.toNat else fail d (.atLeast bound)

def positive (d : Data) : Checked Nat :=
  (integer d).andThen fun n => if 0 < n then passed n.toNat else fail d (.above 0)

def nonnegative (d : Data) : Checked Binary64 :=
  (number d).andThen fun x =>
    if Binary64.le .zero x then passed x else fail d (.atLeast 0)

def percentage (d : Data) : Checked Binary64 :=
  (number d).andThen fun x =>
    if !Binary64.le x (Binary64.ofNat 100) then fail d (.atMost 100)
    else if !Binary64.le .zero x then fail d (.atLeast 0)
    else passed x

/-- The items of a value that can be read as a list. -/
def itemsOf? : Data → Option (List Data)
  | .list items | .members items => some items
  | .pair a b => some [a, b]
  | _ => none

def listOf {α : Type} (check : Data → Checked α) (d : Data) : Checked (List α) :=
  match itemsOf? d with
  | some items => itemsFrom check 0 items
  | none => fail d .notList

def texts : Data → Checked (List Text) := listOf text

/-- The text that a field name is in the location of a problem. -/
def nameOf : Data → Text
  | .text t => t
  | .bool b => Text.ofNat (if b then 1 else 0)
  | key => key.literal

def textEntries : List (Data × Data) → Checked (List (Text × Text))
  | [] => passed []
  | (key, value) :: rest =>
    let name := nameOf key
    let entry := Prod.mk <$> (text key).inside "[key]".toList <*> text value
    List.cons <$> entry.inside name <*> textEntries rest

def textMap : Data → Checked (List (Text × Text))
  | .map entries => textEntries entries
  | d => fail d .notMap

/-- A value that may be left open. -/
def optional {α : Type} (check : Data → Checked α) : Data → Checked (Option α)
  | .null => passed none
  | d => some <$> check d

/-- A record: the entries of a map are checked by `check`. -/
def record {α : Type} (name : String) (check : List (Data × Data) → Checked α) :
    Data → Checked α
  | .map entries => check entries
  | d => fail d (.notRecord name)

def withDefault {α : Type} (entries : List (Data × Data)) (name : String) (default : α)
    (check : Data → Checked α) : Checked α :=
  match Data.lookup? name entries with
  | some d => (check d).inside name.toList
  | none => passed default

/-- A field that a record must have. -/
def required {α : Type} (entries : List (Data × Data)) (name : String)
    (check : Data → Checked α) : Checked α :=
  match Data.lookup? name entries with
  | some d => (check d).inside name.toList
  | none => (fail (.map entries) .missing).inside name.toList

def isKnown (fields : List String) (entry : Data × Data) : Bool :=
  fields.any fun name => Data.sameKey entry.1 (Data.ofString name)

/-- The problem with an entry that belongs to no field. -/
def stray (entry : Data × Data) : Problem :=
  match entry.1 with
  | .text t => ⟨[t], .unknownField, entry.2⟩
  | key => ⟨[nameOf key], .badFieldName, key⟩

/-- Passes a record only if every entry belongs to one of its fields. -/
def onlyKnown {α : Type} (fields : List String) (entries : List (Data × Data))
    (checked : Checked α) : Checked α :=
  match (entries.filter fun entry => !isKnown fields entry).map stray with
  | [] => checked
  | problems => failed (checked.problems ++ problems)

end OutlineSearch.Field
