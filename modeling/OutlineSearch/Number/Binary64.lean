/-!
# Binary floating point

Scores and sizes are binary floating-point numbers of 64 bits.  A finite number is a
significand times a power of two; every operation computes the exact result as a ratio
and rounds it to the nearest number, a tie to the even significand.
-/

namespace OutlineSearch

namespace Binary64

def leastExponent : Int := -1074

def greatestExponent : Int := 971

/-- A significand and an exponent that represent a number.  The significand has all 53 bits
unless the exponent is the least one, so that equal numbers have equal representations. -/
structure IsStandard (significand : Nat) (exponent : Int) : Prop where
  least : leastExponent ≤ exponent
  greatest : exponent ≤ greatestExponent
  small : significand < Nat.pow 2 53
  full : exponent = leastExponent ∨ Nat.pow 2 52 ≤ significand

theorem isStandard_iff (significand : Nat) (exponent : Int) :
    IsStandard significand exponent ↔
      leastExponent ≤ exponent ∧ exponent ≤ greatestExponent ∧ significand < Nat.pow 2 53 ∧
        (exponent = leastExponent ∨ Nat.pow 2 52 ≤ significand) :=
  ⟨fun ⟨least, greatest, small, full⟩ => ⟨least, greatest, small, full⟩,
    fun ⟨least, greatest, small, full⟩ => ⟨least, greatest, small, full⟩⟩

instance (significand : Nat) (exponent : Int) : Decidable (IsStandard significand exponent) :=
  decidable_of_iff _ (isStandard_iff significand exponent).symm

theorem isStandard_zero : IsStandard 0 leastExponent := by decide

end Binary64

inductive Binary64 where
  | nan
  | infinite (negative : Bool)
  | finite (negative : Bool) (significand : Nat) (exponent : Int)
      (standard : Binary64.IsStandard significand exponent)
deriving Repr, DecidableEq

namespace Binary64

/-- A quotient rounded to the nearest whole number, a tie to the even one. -/
def roundedQuotient (numerator denominator : Nat) : Nat :=
  let quotient := numerator / denominator
  let twice := 2 * (numerator % denominator)
  if denominator < twice || (twice == denominator && quotient % 2 == 1) then quotient + 1
  else quotient

/-- Numerator and denominator of a ratio divided by a power of two. -/
def scaled (numerator denominator : Nat) : Int → Nat × Nat
  | .ofNat e => (numerator, denominator * Nat.pow 2 e)
  | .negSucc e => (numerator * Nat.pow 2 (e + 1), denominator)

/-- The exponent at which a positive ratio has a significand of 53 bits, or the least
exponent if that is greater. -/
def exponentOf (numerator denominator : Nat) : Int :=
  let guess : Int := (numerator.log2 : Int) - denominator.log2 - 53
  let (n, d) := scaled numerator denominator guess
  max leastExponent (if Nat.pow 2 53 ≤ n / d then guess + 1 else guess)

/-- The number with a significand and an exponent that a result has been rounded to.  One that
is too large to be represented is infinite. -/
def ofParts (negative : Bool) (significand : Nat) (exponent : Int) : Binary64 :=
  if standard : IsStandard significand exponent then
    .finite negative significand exponent standard
  else .infinite negative

def signedZero (negative : Bool) : Binary64 := .finite negative 0 leastExponent isStandard_zero

/-- The number nearest to a ratio whose denominator is positive. -/
def ofRatio (negative : Bool) (numerator denominator : Nat) : Binary64 :=
  if numerator = 0 then signedZero negative
  else
    let exponent := exponentOf numerator denominator
    let (n, d) := scaled numerator denominator exponent
    let significand := roundedQuotient n d
    if significand = Nat.pow 2 53 then ofParts negative (Nat.pow 2 52) (exponent + 1)
    else ofParts negative significand exponent

def ofInt (n : Int) : Binary64 := ofRatio (n < 0) n.natAbs 1

def ofNat (n : Nat) : Binary64 := ofRatio false n 1

/-- The number nearest to `digits` times a power of ten. -/
def ofDecimal (negative : Bool) (digits : Nat) (exponent : Int) : Binary64 :=
  if digits = 0 then ofRatio negative 0 1
  else
    let magnitude : Int := (Nat.toDigits 10 digits).length + exponent
    if 400 < magnitude then .infinite negative
    else if magnitude < -400 then ofRatio negative 0 1
    else match exponent with
      | .ofNat e => ofRatio negative (digits * Nat.pow 10 e) 1
      | .negSucc e => ofRatio negative digits (Nat.pow 10 (e + 1))

def zero : Binary64 := signedZero false

/-- Numerator and denominator of a finite number without its sign. -/
def ratio (significand : Nat) : Int → Nat × Nat
  | .ofNat e => (significand * Nat.pow 2 e, 1)
  | .negSucc e => (significand, Nat.pow 2 (e + 1))

def signed (negative : Bool) (n : Nat) : Int := if negative then -(n : Int) else n

/-- A finite number in units of the `2 ^ leastExponent`. -/
def units (negative : Bool) (significand : Nat) (exponent : Int) : Int :=
  signed negative (significand * Nat.pow 2 (exponent - leastExponent).toNat)

def neg : Binary64 → Binary64
  | .nan => .nan
  | .infinite negative => .infinite !negative
  | .finite negative significand exponent standard =>
    .finite (!negative) significand exponent standard

def add : Binary64 → Binary64 → Binary64
  | .nan, _ | _, .nan => .nan
  | .infinite a, .infinite b => if a = b then .infinite a else .nan
  | .infinite a, .finite .. => .infinite a
  | .finite .., .infinite b => .infinite b
  | .finite a m e _, .finite b n f _ =>
    let sum := units a m e + units b n f
    if sum = 0 then signedZero (a && b)
    else ofRatio (sum < 0) sum.natAbs (Nat.pow 2 (-leastExponent).toNat)

def sub (x y : Binary64) : Binary64 := add x (neg y)

def mul : Binary64 → Binary64 → Binary64
  | .nan, _ | _, .nan => .nan
  | .infinite a, .infinite b => .infinite (a != b)
  | .infinite a, .finite b n _ _ | .finite b n _ _, .infinite a =>
    if n = 0 then .nan else .infinite (a != b)
  | .finite a m e _, .finite b n f _ =>
    let (p, q) := ratio (m * n) (e + f)
    ofRatio (a != b) p q

def div : Binary64 → Binary64 → Binary64
  | .nan, _ | _, .nan => .nan
  | .infinite _, .infinite _ => .nan
  | .infinite a, .finite b _ _ _ => .infinite (a != b)
  | .finite a _ _ _, .infinite b => signedZero (a != b)
  | .finite a m e _, .finite b n f _ =>
    if n = 0 then if m = 0 then .nan else .infinite (a != b)
    else
      let (p, q) := ratio m (e - f)
      ofRatio (a != b) p (q * n)

/-- Whether a number is less than another one; nothing compares with what is no number. -/
def lt : Binary64 → Binary64 → Bool
  | .nan, _ | _, .nan => false
  | .infinite a, .infinite b => a && !b
  | .infinite a, .finite .. => a
  | .finite .., .infinite b => !b
  | .finite a m e _, .finite b n f _ => units a m e < units b n f

/-- Whether two numbers have the same value; the two zeros do. -/
def eq : Binary64 → Binary64 → Bool
  | .nan, _ | _, .nan => false
  | .infinite a, .infinite b => a == b
  | .finite a m e _, .finite b n f _ => units a m e == units b n f
  | _, _ => false

/-- Whether a number is less than another one or has the same value. -/
def le (x y : Binary64) : Bool := lt x y || eq x y

def isZero : Binary64 → Bool
  | .finite _ significand _ _ => significand == 0
  | _ => false

/-- The integer that a finite number is; `none` if it has a fractional part. -/
def toInt? : Binary64 → Option Int
  | .finite negative significand exponent _ =>
    let (n, d) := ratio significand exponent
    if n % d = 0 then some (signed negative (n / d)) else none
  | _ => none

instance : Zero Binary64 := ⟨zero⟩
instance : Add Binary64 := ⟨add⟩

end Binary64

end OutlineSearch
