/-!
# Tables of code points

Character properties beyond ASCII are kept as sorted lists of code point ranges.
A run also has a step, because cased letters often alternate.
-/

namespace OutlineSearch.Text

/-- Whether a code point lies in one of the ranges, ends included. -/
def inRanges (ranges : List (Nat × Nat)) (code : Nat) : Bool :=
  ranges.any fun (first, last) => first ≤ code && code ≤ last

/-- Whether a code point is one of those that the runs `(first, last, step)` count up. -/
def inRuns (runs : List (Nat × Nat × Nat)) (code : Nat) : Bool :=
  runs.any fun (first, last, step) =>
    first ≤ code && code ≤ last && (code - first) % step == 0

/-- The image of a code point under the first run `(first, last, step, shift)` that
counts it. -/
def shiftIn? (runs : List (Nat × Nat × Nat × Int)) (code : Nat) : Option Nat :=
  runs.findSome? fun (first, last, step, shift) =>
    if first ≤ code && code ≤ last && (code - first) % step == 0 then
      some ((code : Int) + shift).toNat
    else none

/-- Every code point that the runs map to `image`. -/
def shiftedFrom (runs : List (Nat × Nat × Nat × Int)) (image : Nat) : List Nat :=
  runs.filterMap fun (first, last, step, shift) =>
    let code := ((image : Int) - shift).toNat
    if first ≤ code && code ≤ last && (code - first) % step == 0 then some code else none

end OutlineSearch.Text
