import OutlineSearch.Search.Scorer
import OutlineSearch.Text.Blank
import OutlineSearch.Text.Letter

/-!
# Similarity

How well a short text fits some part of a longer one, out of a hundred.  Two texts differ
by the number of characters that have to be deleted or inserted to turn one into the
other.  The parts considered are the windows of the length of the short text, and the
shorter pieces at either end of the long text.
-/

namespace OutlineSearch.Similarity

/-- Takes a text apart into words of letters and numerals: everything else becomes a space,
letters are lowered one by one, and the blanks at the ends are dropped. -/
def words (text : Text) : Text :=
  Text.trim (text.map fun c => if Text.isAlphanumeric c then Text.lowerChar c else ' ')

/-- The next row of the table of longest common subsequences: `diagonal` and `left` are the
entries of the row above and of this row before the next character. -/
def nextRow (c : Char) (diagonal left : Nat) : Text → List Nat → List Nat
  | d :: text, above :: row =>
    let entry := if c = d then diagonal + 1 else max above left
    entry :: nextRow c above entry text row
  | _, _ => []

/-- The length of the longest common subsequence of two texts. -/
def commonLength (a b : Text) : Nat :=
  let row := a.foldl (fun row c => nextRow c 0 0 b row) (List.replicate b.length 0)
  row.getLast?.getD 0

/-- The number of deletions and insertions that turn one text into the other. -/
def distance (a b : Text) : Nat := a.length + b.length - 2 * commonLength a b

def complement (n d : Nat) : Binary64 :=
  Binary64.sub (Binary64.ofNat 1) (Binary64.div (Binary64.ofNat n) (Binary64.ofNat d))

def hundred : Binary64 := Binary64.ofNat 100

/-- The texts of length `size` that begin at each of the first `count` places. -/
def windows (size : Nat) : Nat → Text → List Text
  | 0, _ => []
  | _, [] => []
  | count + 1, c :: rest => (c :: rest).take size :: windows size count rest

/-- The score of the best window, if it reaches the cutoff. -/
def windowScore (cutoff : Binary64) (short long : Text) : List Binary64 :=
  match ((windows short.length (long.length - short.length) long).map (distance short)).min? with
  | none => []
  | some best =>
    let score := Binary64.mul (complement best (2 * short.length)) hundred
    if Binary64.le cutoff score then [score] else []

/-- The nonempty beginnings of a text that are shorter than `size` and end in a character
of `allowed`. -/
def beginnings (allowed : Text) (size : Nat) (text : Text) : List Text :=
  ((List.range (size - 1)).map fun i => text.take (i + 1)).filter fun piece =>
    piece.getLast?.any allowed.contains

/-- The endings of a text that are not longer than `size` and begin with a character of
`allowed`. -/
def endings (allowed : Text) (size : Nat) (text : Text) : List Text :=
  ((List.range size).map fun i => text.drop (text.length - size + i)).filter fun piece =>
    piece.head?.any allowed.contains

/-- The score of a piece at one end, if it reaches the cutoff. -/
def pieceScore? (cutoff : Binary64) (short piece : Text) : Option Binary64 :=
  let ratio := complement (distance short piece) (short.length + piece.length)
  if Binary64.le (Binary64.div cutoff hundred) ratio then some (Binary64.mul ratio hundred)
  else none

def greater (a b : Binary64) : Binary64 := if Binary64.lt a b then b else a

/-- The best score of a part of `long`, zero if none reaches the cutoff. -/
def bestPart (cutoff : Binary64) (short long : Text) : Binary64 :=
  let pieces := beginnings short short.length long ++ endings short short.length long
  (windowScore cutoff short long ++ pieces.filterMap (pieceScore? cutoff short)).foldl greater
    .zero

/-- How well the shorter of two texts fits a part of the longer one. -/
def partialRatio (cutoff : Binary64) (a b : Text) : Binary64 :=
  let (short, long) := if a.length ≤ b.length then (a, b) else (b, a)
  if Binary64.lt hundred cutoff then .zero
  else if short.isEmpty then if long.isEmpty then hundred else .zero
  else if short.length = long.length then
    greater (bestPart cutoff short long) (bestPart cutoff long short)
  else bestPart cutoff short long

/-- How well a term fits a part of a text, both taken apart into words; zero if the cutoff
is not reached. -/
def similarity (cutoff : Binary64) (term text : Text) : Binary64 :=
  partialRatio cutoff (words term) (words text)

def scorer (cutoff : Binary64) : Scorer Binary64 :=
  Scorer.ofSimilarity Binary64.isZero similarity cutoff

end OutlineSearch.Similarity
