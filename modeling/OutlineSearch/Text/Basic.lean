/-!
# Text

Lines, titles, queries and paths are lists of characters, so that every operation
on them is a recursion on the list.
-/

namespace OutlineSearch

/-- A piece of text, one entry per Unicode scalar value. -/
abbrev Text := List Char

namespace Text

/-- Whether `needle` occurs somewhere in the text; the empty text occurs everywhere. -/
def hasInfix (needle : Text) : Text → Bool
  | [] => needle.isEmpty
  | c :: rest => needle.isPrefixOf (c :: rest) || hasInfix needle rest

/-- The number of occurrences of `needle` that do not overlap, counted from the left.
Each occurrence found skips the characters it covers. -/
def countAux (needle : Text) : Nat → Text → Nat
  | _, [] => 0
  | skip + 1, _ :: rest => countAux needle skip rest
  | 0, c :: rest =>
    if needle.isPrefixOf (c :: rest) then 1 + countAux needle (needle.length - 1) rest
    else countAux needle 0 rest

/-- How often `needle` occurs without overlap; the empty text occurs once before each
character and once at the end. -/
def count (needle text : Text) : Nat :=
  if needle.isEmpty then text.length + 1 else countAux needle 0 text

/-- The texts joined with a separator between neighbours. -/
def join (separator : Text) : List Text → Text
  | [] => []
  | [t] => t
  | t :: u :: rest => t ++ separator ++ join separator (u :: rest)

/-- Splits at every `separator`, keeping empty pieces. -/
def splitOnChar (separator : Char) : Text → List Text
  | [] => [[]]
  | c :: rest =>
    if c = separator then [] :: splitOnChar separator rest
    else match splitOnChar separator rest with
      | [] => [[c]]
      | piece :: pieces => (c :: piece) :: pieces

/-- Without the characters at the end that satisfy `p`. -/
def dropRightWhile (p : Char → Bool) (text : Text) : Text :=
  (text.reverse.dropWhile p).reverse

/-- Without the line terminators at the end. -/
def chomp (text : Text) : Text :=
  text.dropRightWhile fun c => c == '\r' || c == '\n'

/-- Code point order, a proper prefix first. -/
def lt : Text → Text → Bool
  | [], [] => false
  | [], _ :: _ => true
  | _ :: _, [] => false
  | a :: as, b :: bs => if a.val < b.val then true else if b.val < a.val then false else lt as bs

/-- Code point order or equality. -/
def le (a b : Text) : Bool := !lt b a

def ofNat (n : Nat) : Text := Nat.toDigits 10 n

def ofInt : Int → Text
  | .ofNat n => ofNat n
  | .negSucc n => '-' :: ofNat (n + 1)

/-- A numeral filled up with zeros from the left to at least `width` digits. -/
def padded (width n : Nat) : Text :=
  let digits := ofNat n
  List.replicate (width - digits.length) '0' ++ digits

end Text

end OutlineSearch
