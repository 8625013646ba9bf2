import OutlineSearch.Data.Field
import OutlineSearch.Yaml.Node

/-!
# Values of YAML nodes

The value that a node denotes according to its tag.  The entry `<<` of a mapping brings in
the entries of other mappings, which its own entries override.

Values are made in rounds: what is in a sequence or a mapping is made after everything that stands
next to it.  So of several errors the one in the earliest round counts, and of those the first.
-/

namespace OutlineSearch.Yaml

namespace Node

def tag : Node → Tag
  | .scalar tag _ | .sequence tag _ | .mapping tag _ => tag

/-- The text of a scalar; a mapping stands for its entry `=`. -/
def text? : Node → Option Text
  | .scalar _ text => some text
  | .sequence .. => none
  | .mapping _ entries => fromEntries entries
where
  fromEntries : List (Node × Node) → Option Text
    | [] => none
    | (k, v) :: rest => if k.tag = .value then text? v else fromEntries rest

end Node

open Node (refuse)

/-! ## Scalars -/

def boolOf (t : Text) : Except Error Data :=
  let word := t.lower
  match String.ofList word with
  | "yes" | "true" | "on" => .ok (.bool true)
  | "no" | "false" | "off" => .ok (.bool false)
  | _ => .error (.unknownWord word)

/-- A digit's value in any base up to sixteen, larger than any base for other characters. -/
def digitIn (c : Char) : Nat :=
  match Text.digitValue? c with
  | some n => n
  | none => if Pattern.isHex c then Pattern.hexValue c else 99

/-- The digits of a numeral without a mark for its base. -/
def withoutMark (base : Nat) : Text → Text
  | '0' :: mark :: rest =>
    if (base = 2 && mark.toLower == 'b') || (base = 8 && mark.toLower == 'o')
        || (base = 16 && mark.toLower == 'x') then rest else '0' :: mark :: rest
  | t => t

section Values

-- The most digits that a decimal numeral may have, if their number is bounded.
variable (limit : Option Nat)

def integerIn (base : Nat) (t : Text) : Except Error Int :=
  let (negative, digits) := match t.trimNumeral with
    | '-' :: rest => (true, rest)
    | '+' :: rest => (false, rest)
    | rest => (false, rest)
  let digits := withoutMark base digits
  if digits.isEmpty || digits.any fun c => base ≤ digitIn c then
    .error (.badValue (s!"invalid literal for int() with base {base}: "
      ++ String.ofList t.quoted))
  else
    let value := Binary64.signed negative (digits.foldl (fun n c => base * n + digitIn c) 0)
    match limit with
    | some limit =>
      if base = 10 && limit < digits.length then
        .error (.badValue (Text.tooManyDigits digits.length limit))
      else .ok value
    | none => .ok value

/-- The value of digits of which sixty units make one of the next, the largest first. -/
def sixties (parts : List Int) : Int := parts.foldl (fun n part => 60 * n + part) 0

def intOf (t : Text) : Except Error Data :=
  let t := t.filter (· != '_')
  let (sign, body) : Int × Text := match t with
    | '-' :: rest => (-1, rest)
    | '+' :: rest => (1, rest)
    | rest => (1, rest)
  if t.isEmpty || body.isEmpty then .error .emptyNumber
  else if body = ['0'] then .ok (.int 0)
  else do
    let n ← match body with
      | '0' :: 'b' :: rest => integerIn limit 2 rest
      | '0' :: 'x' :: rest => integerIn limit 16 rest
      | '0' :: _ => integerIn limit 8 body
      | _ =>
        if body.contains ':' then sixties <$> (Text.splitOnChar ':' body).mapM (integerIn limit 10)
        else integerIn limit 10 body
    .ok (.int (sign * n))

/-- The number that a numeral denotes, whose digits may be those of any script. -/
def numberOf (t : Text) : Except Error Binary64 :=
  match Field.readFloat? (t.trimNumeral.map Text.asciiDigit) with
  | some x => .ok x
  | none => .error (.badValue ("could not convert string to float: " ++ String.ofList t.quoted))

/-- The sum of numbers of which sixty units make one of the next, the smallest first. -/
def sixtiesOf (base : Nat) (sum : Binary64) : List Binary64 → Except Error Binary64
  | [] => .ok sum
  | x :: rest =>
    match Binary64.ofNat base with
    | .infinite _ => .error .unitTooLarge
    | unit => sixtiesOf (60 * base) (Binary64.add sum (Binary64.mul x unit)) rest

def floatOf (t : Text) : Except Error Data :=
  let t := Text.lower (t.filter (· != '_'))
  let (sign, body) : Int × Text := match t with
    | '-' :: rest => (-1, rest)
    | '+' :: rest => (1, rest)
    | rest => (1, rest)
  if t.isEmpty then .error .emptyNumber
  else if body = ".inf".toList then .ok (.float (.infinite (sign = -1)))
  else if body = ".nan".toList then .ok (.float .nan)
  else do
    let x ←
      if body.contains ':' then do
        let parts ← (Text.splitOnChar ':' body).mapM numberOf
        sixtiesOf 1 .zero parts.reverse
      else numberOf body
    .ok (.float (Binary64.mul (Binary64.ofInt sign) x))

/-- The minutes by which a clock is ahead of universal time. -/
def zoneOffset : Char × Text × Text → Except Error Int
  | (sign, hours, minutes) =>
    let size : Int := hours.digitsValue * 60 + minutes.digitsValue
    let offset := if sign = '-' then -size else size
    if size < 1440 then .ok offset
    else .error (.badValue ("offset must be a timedelta strictly between "
      ++ "-timedelta(hours=24) and timedelta(hours=24), not "
      ++ String.ofList (Data.span offset) ++ "."))

/-- A value of the calendar. -/
def inCalendar {α : Type} : Except CalendarError α → Except Error α
  | .ok a => .ok a
  | .error e => .error (.badValue e.message)

/-- The date or the moment that a scalar denotes. -/
def timestampOf (t : Text) : Except Error Data :=
  match Tag.readStamp false (Tag.withoutFinalBreak t) with
  | none => .error .noStamp
  | some s =>
    let number (digits : Text) : Int := digits.digitsValue
    if s.hour.isEmpty then
      Data.date <$> inCalendar (Date.of? (number s.year) (number s.month) (number s.day))
    else do
      let offset ← s.zone.mapM zoneOffset
      let micro := (s.fraction ++ List.replicate 6 '0').take 6
      let date ← inCalendar (Date.of? (number s.year) (number s.month) (number s.day))
      let clock ← inCalendar
        (Clock.of? (number s.hour) (number s.minute) (number s.second) (number micro))
      .ok (.moment ⟨date, clock⟩ offset)

/-- The six bits that a character stands for in base 64. -/
def sixBits? (c : Char) : Option Nat :=
  if c.isUpper then some (c.toNat - 65)
  else if c.isLower then some (c.toNat - 71)
  else if c.isDigit then some (c.toNat + 4)
  else if c = '+' then some 62
  else if c = '/' then some 63
  else none

/-- Reads base 64, where `filled` characters of the current group of four have been read and
make up `bits`, and `padding` signs of padding follow them.  Other characters are passed
over. -/
def bytesFrom (filled bits padding : Nat) : Text → Option (List UInt8)
  | [] => if filled = 0 then some [] else none
  | c :: rest =>
    if c = '=' then
      if 2 ≤ filled && 4 ≤ filled + padding + 1 then some []
      else bytesFrom filled bits (if 2 ≤ filled then padding + 1 else padding) rest
    else match sixBits? c with
      | none => bytesFrom filled bits padding rest
      | some n =>
        let bits := bits * 64 + n
        match filled with
        | 0 => bytesFrom 1 bits 0 rest
        | 1 => (UInt8.ofNat (bits / 16) :: ·) <$> bytesFrom 2 (bits % 16) 0 rest
        | 2 => (UInt8.ofNat (bits / 4) :: ·) <$> bytesFrom 3 (bits % 4) 0 rest
        | _ => (UInt8.ofNat bits :: ·) <$> bytesFrom 0 0 0 rest

def bytesOf (t : Text) : Except Error Data :=
  if t.any fun c => 128 ≤ c.toNat then refuse "expected base 64"
  else match bytesFrom 0 0 0 t with
    | some bytes => .ok (.bytes bytes)
    | none => refuse "expected base 64"

/-! ## Nodes -/

/-- Every value once, at its first place, where values are the same if they are one key. -/
def distinctKeys (found : List Data) : List Data → List Data
  | [] => found.reverse
  | d :: rest =>
    if found.any (Data.sameKey d) then distinctKeys found rest
    else distinctKeys (d :: found) rest

/-- A value that is made in rounds, or the error that is met first and the round in which it is
met.  What is in a sequence or a mapping is made one round after its neighbours. -/
abbrev Staged (α : Type) := Except (Nat × Error) α

namespace Staged

/-- A value that is made in the first round. -/
def now {α : Type} (x : Except Error α) : Staged α := x.mapError fun e => (0, e)

def later {α : Type} (x : Staged α) : Staged α := x.mapError fun (round, e) => (round + 1, e)

/-- Two values that are made side by side; in the same round the first one is made first. -/
def both {α β : Type} : Staged α → Staged β → Staged (α × β)
  | .ok a, .ok b => .ok (a, b)
  | .error e, .ok _ => .error e
  | .ok _, .error e => .error e
  | .error e, .error f => .error (if f.1 < e.1 then f else e)

/-- Values that are made side by side. -/
def all {α : Type} : List (Staged α) → Staged (List α)
  | [] => .ok []
  | x :: rest => (fun (a, as) => a :: as) <$> x.both (all rest)

end Staged

def isMerge (n : Node) : Bool := n.tag = .merge

/-- Whether the values with a tag hold other values, which are made later. -/
def Tag.isCollection : Tag → Bool
  | .seq | .map | .set | .omap | .pairs => true
  | _ => false

mutual

/-- Whether all that is to be brought into a mapping are mappings. -/
def merges : List (Node × Node) → Bool
  | [] => true
  | (k, v) :: rest => (!isMerge k || brings v) && merges rest

/-- Whether a node is a mapping that can be brought in, or a sequence of such. -/
def brings : Node → Bool
  | .mapping _ entries => merges entries
  | .sequence _ items => bringsEach items
  | .scalar .. => false

/-- Whether all nodes are mappings that can be brought in. -/
def bringsEach : List Node → Bool
  | [] => true
  | .mapping _ entries :: rest => merges entries && bringsEach rest
  | _ :: _ => false

end

def scalarOf (tag : Tag) (text : Text) : Except Error Data :=
  match tag with
  | .null => .ok .null
  | .bool => boolOf text
  | .int => intOf limit text
  | .float => floatOf text
  | .binary => bytesOf text
  | .timestamp => timestampOf text
  | .str => .ok (.text text)
  | _ => refuse "found a tag that is not known"

/-- The value of a node with the tag of a scalar. -/
def plainOf (tag : Tag) (n : Node) : Except Error Data :=
  match n.text? with
  | none => refuse "expected a scalar"
  | some text =>
    match n, tag with
    | .mapping .., .timestamp => .error .mappingAsStamp
    | _, _ => scalarOf limit tag text

/-- The tag of a key.  The key `=` of a mapping stands for itself. -/
def keyTag (tag : Tag) : Tag := if tag = .value then .str else tag

mutual

def made (tag : Tag) : Node → Staged Data
  | .sequence own items =>
    match tag with
    | .seq => .later (Data.list <$> .all (madeEach items))
    | .omap | .pairs => .later (Data.list <$> .all (madePairs items))
    | .map | .set => .later (.now (refuse "expected a mapping"))
    | tag => .now (plainOf limit tag (.sequence own items))
  | .mapping own entries =>
    let (brought, others) := madeEntries entries
    let all : Staged (List (Data × Data)) :=
      if merges entries then .all (brought ++ others)
      else .now (refuse "expected mappings to bring in")
    match tag with
    | .map => .later (Data.mapOf <$> all)
    | .set => .later ((fun all => .members (distinctKeys [] (all.map (·.1)))) <$> all)
    | .seq | .omap | .pairs => .later (.now (refuse "expected a sequence"))
    | tag => .now (plainOf limit tag (.mapping own entries))
  | .scalar own text =>
    if tag.isCollection then .later (.now (refuse "expected a sequence or a mapping"))
    else .now (plainOf limit tag (.scalar own text))

def madeEach : List Node → List (Staged Data)
  | [] => []
  | n :: rest => made n.tag n :: madeEach rest

/-- The entries of mappings that have one entry each. -/
def madePairs : List Node → List (Staged Data)
  | [] => []
  | .mapping _ [(k, v)] :: rest =>
    ((fun (k, v) => .pair k v) <$> (made k.tag k).both (made v.tag v)) :: madePairs rest
  | _ :: _ => [.now (refuse "expected a mapping of one entry")]

/-- The entries that a mapping brings in from others, and its own. -/
def madeEntries : List (Node × Node) → List (Staged (Data × Data)) × List (Staged (Data × Data))
  | [] => ([], [])
  | (k, v) :: rest =>
    let (brought, others) := madeEntries rest
    if isMerge k then (broughtBy v ++ brought, others)
    else
      let entry : Staged (Data × Data) :=
        if k.tag.isCollection then .now (refuse "found a key that is no scalar")
        else (made (keyTag k.tag) k).both (made v.tag v)
      (brought, entry :: others)

/-- The entries that a mapping, or each mapping of a sequence, brings in; the first mapping
of a sequence overrides the others. -/
def broughtBy : Node → List (Staged (Data × Data))
  | .mapping _ entries =>
    let (brought, others) := madeEntries entries
    brought ++ others
  | .sequence _ items => broughtByEach items
  | .scalar .. => []

/-- The entries that mappings bring in, the last mapping first. -/
def broughtByEach : List Node → List (Staged (Data × Data))
  | [] => []
  | .mapping _ entries :: rest =>
    let (brought, others) := madeEntries entries
    broughtByEach rest ++ brought ++ others
  | _ :: rest => broughtByEach rest

end

/-- The value of a node, or the error that is met first while it is made. -/
def valueOf (n : Node) : Except Error Data := (made limit n.tag n).mapError Prod.snd

end Values

/-- A way to read texts: the value that a text denotes, `none` if the text holds no document. -/
abbrev Reader := Text → Except Error (Option Data)

/-- The value that a text denotes; `none` if the text holds no document.  `limit` is the most
digits that a decimal numeral may have, if their number is bounded. -/
def load (text : Text) (limit : Option Nat := some Text.maxDigits) :
    Except Error (Option Data) := do
  match ← Node.ofText text with
  | none => .ok none
  | some n => some <$> valueOf limit n

end OutlineSearch.Yaml
