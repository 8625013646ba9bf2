import OutlineSearch.Text.Blank
import OutlineSearch.Text.Letter

/-!
# Integer numerals

An integer is written as an optional sign and decimal digits of any script, blanks
allowed at both ends and single underscores between digits.
-/

namespace OutlineSearch.Text

/-- Blanks of plain ASCII text. -/
def isAsciiSpace (c : Char) : Bool := c == ' ' || (9 ≤ c.toNat && c.toNat ≤ 13)

/-- Without the blanks that may surround a numeral.  In a text that is ASCII throughout
only the ASCII blanks count. -/
def trimNumeral (text : Text) : Text :=
  let blank := if text.all fun c => c.toNat < 128 then isAsciiSpace else isBlank
  dropRightWhile blank (text.dropWhile blank)

/-- The digits of a numeral in which single underscores may stand between digits. -/
def ungroupedDigits? : Text → Option Text
  | [] => none
  | [c] => if isDecimal c then some [c] else none
  | c :: '_' :: rest => if isDecimal c then (c :: ·) <$> ungroupedDigits? rest else none
  | c :: rest => if isDecimal c then (c :: ·) <$> ungroupedDigits? rest else none

def maxDigits : Nat := 4300

/-- The wording for a number of `count` digits, which are more than `limit`. -/
def tooManyDigits (count : Nat) (limit : Nat := maxDigits) : String :=
  s!"Exceeds the limit ({limit} digits) for integer string conversion: value has "
    ++ s!"{count} digits; use sys.set_int_max_str_digits() to increase the limit"

/-- Whether a number has no more digits than a numeral may have. -/
def fits (n : Nat) : Bool := (ofNat n).length ≤ maxDigits

/-- The wording for a number that cannot be written because it has too many digits. -/
def tooLong : String :=
  s!"Exceeds the limit ({maxDigits} digits) for integer string conversion; "
    ++ "use sys.set_int_max_str_digits() to increase the limit"

def readInt? (text : Text) : Option Int :=
  let (negative, digits) : Bool × Text := match text.trimNumeral with
    | '-' :: rest => (true, rest)
    | '+' :: rest => (false, rest)
    | rest => (false, rest)
  match ungroupedDigits? digits with
  | none => none
  | some digits =>
    if digits.length > maxDigits then none
    else
      let n := digitsValue digits
      some (if negative then -(n : Int) else n)

end OutlineSearch.Text
