import OutlineSearch.Number.Binary64
import OutlineSearch.Text.Basic

/-!
# Decimal text of numbers

Two ways to write a floating-point number: with a fixed number of places, a half going to
the even neighbour; and with the fewest digits that are read back as the same number.
-/

namespace OutlineSearch.Binary64

def withSign (negative : Bool) (text : Text) : Text := if negative then '-' :: text else text

/-- The text of a natural number of units, of which `10 ^ places` make one. -/
def placesText (places n : Nat) : Text :=
  let whole := Text.ofNat (n / Nat.pow 10 places)
  if places = 0 then whole else whole ++ '.' :: Text.padded places (n % Nat.pow 10 places)

def toFixed (places : Nat) : Binary64 → Text
  | .nan => "nan".toList
  | .infinite negative => withSign negative "inf".toList
  | .finite negative significand exponent _ =>
    let (n, d) := ratio significand exponent
    withSign negative (placesText places (roundedQuotient (n * Nat.pow 10 places) d))

/-- A decimal: `digits` times a power of ten. -/
structure Decimal where
  digits : Nat
  exponent : Int
deriving Repr, DecidableEq

/-- The largest power of ten that is not greater than a positive ratio, found by going down
from `start` for at most `steps` steps. -/
def powerBelow (n d : Nat) (start : Int) : Nat → Int
  | 0 => start
  | steps + 1 =>
    let fits : Bool := match start with
      | .ofNat e => d * Nat.pow 10 e ≤ n
      | .negSucc e => d ≤ n * Nat.pow 10 (e + 1)
    if fits then start else powerBelow n d (start - 1) steps

/-- The exponent of the leading decimal digit of a positive ratio. -/
def leadingExponent (n d : Nat) : Int :=
  powerBelow n d ((Nat.toDigits 10 n).length - (Nat.toDigits 10 d).length + 1) 4

/-- The decimal with `count` digits next to a positive ratio that is read back as `number`,
if one of the two neighbours of the ratio on that grid is; of two the nearer one. -/
def neighbour? (number : Binary64) (n d : Nat) (leading : Int) (count : Nat) :
    Option Decimal :=
  let exponent := leading - (count - 1 : Nat)
  let (p, q) := match exponent with
    | .ofNat e => (n, d * Nat.pow 10 e)
    | .negSucc e => (n * Nat.pow 10 (e + 1), d)
  let below := p / q
  let reads (digits : Nat) : Bool := ofDecimal false digits exponent == number
  match reads below, reads (below + 1) with
  | true, true => some ⟨roundedQuotient p q, exponent⟩
  | true, false => some ⟨below, exponent⟩
  | false, true => some ⟨below + 1, exponent⟩
  | false, false => none

/-- The shortest decimal that is read back as a positive finite number.  Seventeen digits
always suffice. -/
def shortest {significand : Nat} {exponent : Int} (standard : IsStandard significand exponent) :
    Decimal :=
  let number := finite false significand exponent standard
  let (n, d) := ratio significand exponent
  let leading := leadingExponent n d
  ((List.range 17).findSome? fun i => neighbour? number n d leading (i + 1)).getD
    ⟨significand, exponent⟩

/-- Digits without zeros at the end, and how many zeros there were. -/
def stripZeros (digits : Text) : Text := Text.dropRightWhile (· == '0') digits

/-- Writes the digits of a decimal whose leading digit has exponent `leading`.  Numbers
below `10 ^ 16` and not below `10 ^ -4` are written in positional notation. -/
def notation64 (digits : Text) (leading : Int) : Text :=
  if -4 ≤ leading && leading < 16 then
    match leading with
    | .negSucc e => "0.".toList ++ List.replicate e '0' ++ digits
    | .ofNat e =>
      let whole := digits.take (e + 1) ++ List.replicate (e + 1 - digits.length) '0'
      let fraction := digits.drop (e + 1)
      whole ++ '.' :: (if fraction.isEmpty then ['0'] else fraction)
  else
    let mantissa := match digits with
      | [] => []
      | [c] => [c]
      | c :: rest => c :: '.' :: rest
    mantissa ++ 'e' :: (if leading < 0 then '-' else '+') :: Text.padded 2 leading.natAbs

/-- A number with the fewest digits that are read back as the same number. -/
def toShortest : Binary64 → Text
  | .nan => "nan".toList
  | .infinite negative => withSign negative "inf".toList
  | .finite negative significand _ standard =>
    if significand = 0 then withSign negative "0.0".toList
    else
      let decimal := shortest standard
      let digits := Text.ofNat decimal.digits
      let leading := decimal.exponent + (digits.length - 1 : Nat)
      withSign negative (notation64 (stripZeros digits) leading)

end OutlineSearch.Binary64
