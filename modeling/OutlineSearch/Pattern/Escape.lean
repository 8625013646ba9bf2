import OutlineSearch.Text.CharName
import OutlineSearch.Text.Letter
import OutlineSearch.Pattern.Token

/-!
# Escapes

A backslash and a character stand for a character that is hard to type, for a class of
characters, for a place, or for what a capture holds.  ASCII letters and digits without
a meaning of their own are refused; any other escaped character stands for itself.
-/

namespace OutlineSearch.Pattern

/-- What a reader of patterns takes from the machine that it runs on. -/
structure Host where
  /-- The character with a name. -/
  charNamed? : Text → Option Char := Text.charNamed?
  /-- Whether the reader runs out of stack at a pattern. -/
  exhausts : Text → Bool := fun _ => false

/-- What an escape stands for. -/
inductive Escape where
  | code (value : Nat)
  | category (kind : Category) (negated : Bool)
  | textStart
  | textEnd
  | wordEdge
  | wordInside
  /-- A number that names a capture; whether it exists is not yet known. -/
  | again (number : Nat)

/-- Escapes for control characters, valid inside and outside of character sets. -/
def controlEscape? : Char → Option Nat
  | 'a' => some 7
  | 'b' => some 8
  | 'f' => some 12
  | 'n' => some 10
  | 'r' => some 13
  | 't' => some 9
  | 'v' => some 11
  | '\\' => some 92
  | _ => none

/-- Escapes for classes of characters; the capital letter negates. -/
def categoryEscape? : Char → Option (Category × Bool)
  | 'd' => some (.digit, false)
  | 'D' => some (.digit, true)
  | 's' => some (.space, false)
  | 'S' => some (.space, true)
  | 'w' => some (.word, false)
  | 'W' => some (.word, true)
  | _ => none

def placeEscape? : Char → Option Escape
  | 'A' => some .textStart
  | 'Z' => some .textEnd
  | 'b' => some .wordEdge
  | 'B' => some .wordInside
  | _ => none

def isOctal (c : Char) : Bool := '0' ≤ c && c ≤ '7'

def isHex (c : Char) : Bool :=
  c.isDigit || ('a' ≤ c && c ≤ 'f') || ('A' ≤ c && c ≤ 'F')

/-- The value of a digit in any base up to sixteen. -/
def hexValue (c : Char) : Nat :=
  if c.isDigit then c.toNat - 48
  else if c.toNat < 97 then c.toNat - 55
  else c.toNat - 87

def numeralValue (base : Nat) (digits : Text) : Nat :=
  digits.foldl (fun n c => base * n + hexValue c) 0

/-- Reads exactly `size` hexadecimal digits behind `escape`, which starts at `start`. -/
def readHex (escape : Text) (start size : Nat) (r : Rest) : Except Stop (Nat × Rest) :=
  let (digits, after) := takeChars isHex size r
  if digits.length = size then .ok (numeralValue 16 digits, after)
  else after.refuseAt (.incompleteEscape (escape ++ digits)) start

/-- Reads a code point of eight digits behind `escape`. -/
def readLongCode (escape : Text) (start : Nat) (r : Rest) : Except Stop (Nat × Rest) := do
  let (value, after) ← readHex escape start 8 r
  if value ≤ 0x10FFFF then .ok (value, after)
  else if 0x7FFFFFFF < value then after.overrun .code
  else
    let (digits, _) := takeChars isHex 8 r
    after.refuseAt (.badEscape (escape ++ digits)) start

section Names

variable (host : Host)

def readCharName (start : Nat) (r : Rest) : Except Stop (Nat × Rest) :=
  if r.startsWith '{' then do
    let (name, after) ← readName "character name" '}' r.skip
    match host.charNamed? name with
    | some c => .ok (c.toNat, after)
    | none => after.refuseAt (.unknownCharName name) start
  else r.refuse (.missing "\x7b") 0

/-- Reads an escape by code or by name, as far as those inside and outside of character
sets agree.  `c` is the escaped character. -/
def readCode (c : Char) (start : Nat) (r : Rest) : Except Stop (Nat × Rest) :=
  let escape : Text := ['\\', c]
  if c = 'x' then readHex escape start 2 r
  else if c = 'u' then readHex escape start 4 r
  else if c = 'U' then readLongCode escape start r
  else if c = 'N' then readCharName host start r
  else if c.isAlpha || c.isDigit then r.refuseAt (.badEscape escape) start
  else .ok (c.toNat, r)

/-- Reads an octal escape whose digits so far are `digits`. -/
def octalCode (digits : Text) (start : Nat) (r : Rest) : Except Stop (Nat × Rest) :=
  let value := numeralValue 8 digits
  if value ≤ 0xFF then .ok (value, r)
  else r.refuseAt (.octalTooLarge ('\\' :: digits)) start

def readSetEscape (c : Char) (start : Nat) (r : Rest) : Except Stop (SetItem × Rest) :=
  match controlEscape? c, categoryEscape? c with
  | some value, _ => .ok (.code value, r)
  | none, some (kind, negated) => .ok (.category kind negated, r)
  | none, none =>
    if isOctal c then do
      let (digits, after) := takeChars isOctal 2 r
      let (value, after) ← octalCode (c :: digits) start after
      .ok (.code value, after)
    else do
      let (value, after) ← readCode host c start r
      .ok (.code value, after)

/-- Reads an escape that begins with a digit other than zero: three octal digits are a
code, anything else is the number of a capture. -/
def readNumberEscape (c : Char) (start : Nat) (r : Rest) : Except Stop (Escape × Rest) :=
  match takeChars Char.isDigit 1 r with
  | ([d], after) =>
    match takeChars isOctal 1 after with
    | ([e], beyond) =>
      if isOctal c && isOctal d then do
        let (value, beyond) ← octalCode [c, d, e] start beyond
        .ok (.code value, beyond)
      else .ok (.again (numeralValue 10 [c, d]), after)
    | _ => .ok (.again (numeralValue 10 [c, d]), after)
  | _ => .ok (.again (numeralValue 10 [c]), r)

/-- Reads an escape outside of character sets. -/
def readEscape (c : Char) (start : Nat) (r : Rest) : Except Stop (Escape × Rest) :=
  match placeEscape? c, categoryEscape? c, controlEscape? c with
  | some place, _, _ => .ok (place, r)
  | none, some (kind, negated), _ => .ok (.category kind negated, r)
  | none, none, some value => .ok (.code value, r)
  | none, none, none =>
    if c = '0' then
      let (digits, after) := takeChars isOctal 2 r
      .ok (.code (numeralValue 8 digits), after)
    else if c.isDigit then readNumberEscape c start r
    else do
      let (value, after) ← readCode host c start r
      .ok (.code value, after)

end Names

end OutlineSearch.Pattern
