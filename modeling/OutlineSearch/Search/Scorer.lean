import OutlineSearch.Number.Binary64
import OutlineSearch.Text.Case

/-!
# Scorers

A scorer says how well a text contains a term, or that it does not.
-/

namespace OutlineSearch

/-- Gives a text and a term a score; `none` if the term is not found. -/
abbrev Scorer (σ : Type) := Text → Text → Option σ

namespace Scorer

/-- Scores one if the text contains the term, case disregarded. -/
def presence : Scorer Binary64 := fun text term =>
  if Text.hasInfix term.lower text.lower then some (Binary64.ofNat 1) else none

/-- Scores the number of occurrences of the term, case disregarded. -/
def occurrences : Scorer Binary64 := fun text term =>
  let n := Text.count term.lower text.lower
  if n = 0 then none else some (Binary64.ofNat n)

/-- The scorer of a similarity measure with a cutoff.  Nothing is found in an empty text, no
empty term is found, and a similarity of zero counts as not found. -/
def ofSimilarity {σ : Type} [Zero σ] (isZero : σ → Bool) (similarity : σ → Text → Text → σ)
    (cutoff : σ) : Scorer σ := fun text term =>
  if text.isEmpty || term.isEmpty then none
  else
    let s := similarity cutoff term text
    if isZero s then none else some s

end Scorer

end OutlineSearch
