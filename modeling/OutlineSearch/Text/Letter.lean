import OutlineSearch.Text.Basic
import OutlineSearch.Text.Letter.Table

/-!
# Letters, digits and words

A word character is a letter, a numeral or the underscore.  Decimal digits exist in
many scripts, and each of them has a value.
-/

namespace OutlineSearch.Text

def isLetter (c : Char) : Bool :=
  if c.toNat < 128 then c.isAlpha else inRanges letterRanges c.toNat

/-- The value of a decimal digit of any script. -/
def digitValue? (c : Char) : Option Nat :=
  if c.toNat < 128 then
    if c.isDigit then some (c.toNat - 48) else none
  else
    (digitZeros.find? fun first => first ≤ c.toNat && c.toNat < first + 10).map (c.toNat - ·)

/-- The ASCII digit with the value of a decimal digit; any other character as it is. -/
def asciiDigit (c : Char) : Char :=
  match digitValue? c with
  | some n => Char.ofNat (48 + n)
  | none => c

def isDecimal (c : Char) : Bool := (digitValue? c).isSome

/-- Whether a character is a letter or a numeral of any kind. -/
def isAlphanumeric (c : Char) : Bool :=
  isLetter c || isDecimal c || (128 ≤ c.toNat && inRanges numeralRanges c.toNat)

/-- Whether a character may stand in a word: alphanumeric or the underscore. -/
def isWordChar (c : Char) : Bool := isAlphanumeric c || c == '_'

/-- Whether a text is nonempty and made of letters only. -/
def isLetters (text : Text) : Bool := !text.isEmpty && text.all isLetter

/-- Whether a text is nonempty and made of decimal digits only. -/
def isDigits (text : Text) : Bool := !text.isEmpty && text.all isDecimal

/-- The number that a run of decimal digits denotes, most significant digit first. -/
def digitsValue (text : Text) : Nat :=
  text.foldl (fun n c => 10 * n + (digitValue? c).getD 0) 0

end OutlineSearch.Text
