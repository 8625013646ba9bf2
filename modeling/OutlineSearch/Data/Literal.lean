import OutlineSearch.Data.Basic
import OutlineSearch.Number.Decimal
import OutlineSearch.Text.Numeral
import OutlineSearch.Text.Quoted

/-!
# Values in messages

How a message writes the value it speaks of.
-/

namespace OutlineSearch.Data

def quotedByte (quote : Char) (b : UInt8) : Text :=
  let c := Char.ofNat b.toNat
  if c = quote || c = '\\' then ['\\', c]
  else if c = '\n' then ['\\', 'n']
  else if c = '\r' then ['\\', 'r']
  else if c = '\t' then ['\\', 't']
  else if 32 ≤ b && b < 127 then [c]
  else '\\' :: 'x' :: Text.hex 2 b.toNat

def quotedBytes (bytes : List UInt8) : Text :=
  let quote := Text.quoteFor (bytes.map fun b => Char.ofNat b.toNat)
  'b' :: quote :: (bytes.flatMap (quotedByte quote) ++ [quote])

/-- Numbers as arguments, those at the end left out that are zero, the first `least` ones
always kept. -/
def arguments (least : Nat) (numbers : List Nat) : Text :=
  let rest := ((numbers.drop least).reverse.dropWhile (· == 0)).reverse
  Text.join ", ".toList ((numbers.take least ++ rest).map Text.ofNat)

/-- A number of minutes as a span of time. -/
def span (minutes : Int) : Text :=
  let days := minutes.fdiv 1440
  let seconds := (minutes - days * 1440) * 60
  let part (name : String) (n : Int) : List Text :=
    if n = 0 then [] else [name.toList ++ '=' :: Text.ofInt n]
  match part "days" days ++ part "seconds" seconds with
  | [] => "datetime.timedelta(0)".toList
  | parts => "datetime.timedelta(".toList ++ Text.join ", ".toList parts ++ [')']

/-- The distance from universal time. -/
def zone (offset : Int) : Text :=
  if offset = 0 then "datetime.timezone.utc".toList
  else "datetime.timezone(".toList ++ span offset ++ [')']

def momentLiteral (m : Moment) (offset : Option Int) : Text :=
  let c := m.clock
  let numbers := [m.date.year, m.date.month, m.date.day, c.hour, c.minute, c.second, c.micro]
  let shift := match offset with
    | none => []
    | some minutes => ", tzinfo=".toList ++ zone minutes
  "datetime.datetime(".toList ++ arguments 5 numbers ++ shift ++ [')']

mutual

/-- How a message writes a value. -/
def literal : Data → Text
  | null => "None".toList
  | bool b => (if b then "True" else "False").toList
  | int n => Text.ofInt n
  | float x => x.toShortest
  | text t => t.quoted
  | list items => '[' :: Text.join ", ".toList (literals items) ++ [']']
  | map entries => '{' :: Text.join ", ".toList (entryLiterals entries) ++ ['}']
  | date d => "datetime.date(".toList ++ arguments 3 [d.year, d.month, d.day] ++ [')']
  | moment m offset => momentLiteral m offset
  | bytes b => quotedBytes b
  | pair a b => '(' :: literal a ++ ", ".toList ++ literal b ++ [')']
  | members [] => "set()".toList
  | members items => '{' :: Text.join ", ".toList (literals items) ++ ['}']

def literals : List Data → List Text
  | [] => []
  | item :: rest => literal item :: literals rest

def entryLiterals : List (Data × Data) → List Text
  | [] => []
  | (k, v) :: rest => (literal k ++ ": ".toList ++ literal v) :: entryLiterals rest

end

mutual

/-- Whether no integer in a value has more digits than may be written. -/
def fits : Data → Bool
  | int n => Text.fits n.natAbs
  | list items | members items => fitsEach items
  | map entries => fitsEntries entries
  | pair a b => fits a && fits b
  | _ => true

def fitsEach : List Data → Bool
  | [] => true
  | item :: rest => fits item && fitsEach rest

def fitsEntries : List (Data × Data) → Bool
  | [] => true
  | (k, v) :: rest => fits k && fits v && fitsEntries rest

end

end OutlineSearch.Data
