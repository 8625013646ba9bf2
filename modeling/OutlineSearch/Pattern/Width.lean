import OutlineSearch.Pattern.Syntax

/-!
# The width of a pattern

The bounds on the number of characters that a node can match.  A look behind needs them
to be equal.  Bounds are capped, so that nested repetitions stay comparable.
-/

namespace OutlineSearch.Pattern

/-- No bound is greater than this one. -/
def widthCap : Nat := Nat.pow 2 64

def Width.add (a b : Width) : Width := ⟨a.least + b.least, a.most + b.most⟩

def Width.either (a b : Width) : Width := ⟨min a.least b.least, max a.most b.most⟩

def Width.capped (a : Width) : Width := ⟨min a.least widthCap, min a.most widthCap⟩

/-- The width of `least` to `most` rounds of something. -/
def Width.times (a : Width) (least : Nat) (most : Option Nat) : Width :=
  match most with
  | some most => ⟨a.least * least, a.most * most⟩
  | none => ⟨a.least * least, if a.most = 0 then 0 else widthCap⟩

/-- The width of a node, given the widths of the captures it may refer to. -/
def Node.width (captures : List (Nat × Width)) : Node → Width
  | .empty | .anchor _ | .ahead .. | .behind .. => ⟨0, 0⟩
  | .set .. | .any _ => ⟨1, 1⟩
  | .seq a b => ((a.width captures).add (b.width captures)).capped
  | .alt a b => (a.width captures).either (b.width captures)
  | .rounds _ least most body => ((body.width captures).times least most).capped
  | .capture _ body | .group body | .atomic body => body.width captures
  | .again number _ => (captures.lookup number).getD ⟨0, 0⟩
  | .choice _ yes no => (yes.width captures).either (no.width captures)

end OutlineSearch.Pattern
