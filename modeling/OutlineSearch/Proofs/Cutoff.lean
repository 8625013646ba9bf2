import Mathlib.Algebra.Order.BigOperators.Group.List
import Mathlib.Algebra.Order.Ring.Rat
import Mathlib.Data.List.Forall2
import Mathlib.Data.List.Nodup
import Mathlib.Tactic.Linarith
import Mathlib.Tactic.NormNum
import OutlineSearch.Proofs.Coverage
import OutlineSearch.Proofs.TokenOrder

/-!
# Cutoffs

A higher cutoff lets fewer terms count as found.  It takes lines away from the hits of a search
and never adds one, and a line that stays has no higher score, where scores are added exactly.
-/

namespace OutlineSearch

/-- What a function finds in a list is a part of what another one finds, item by item. -/
theorem sublistForall₂_filterMap {α β γ : Type} {R : β → γ → Prop} {f : α → Option β}
    {g : α → Option γ} (related : ∀ x b, f x = some b → ∃ c, g x = some c ∧ R b c)
    (items : List α) : List.SublistForall₂ R (items.filterMap f) (items.filterMap g) := by
  induction items with
  | nil => exact .nil
  | cons x rest induction =>
      cases found : f x with
      | some b =>
          obtain ⟨c, foundToo, here⟩ := related x b found
          rw [List.filterMap_cons_some found, List.filterMap_cons_some foundToo]
          exact .cons here induction
      | none =>
          rw [List.filterMap_cons_none found]
          cases foundToo : g x with
          | some c =>
              rw [List.filterMap_cons_some foundToo]
              exact .cons_right induction
          | none =>
              rw [List.filterMap_cons_none foundToo]
              exact induction

/-- One scorer is stricter than another: what it finds the other finds, too, and does not score
lower; and no score is negative. -/
structure Scorer.Stricter (strict loose : Scorer ℚ) : Prop where
  found : ∀ text term a, strict text term = some a → ∃ b, loose text term = some b ∧ a ≤ b
  nonnegative : ∀ text term b, loose text term = some b → 0 ≤ b

namespace Searcher

/-- Every line is reported at most once. -/
theorem pairwise_judged {σ : Type} [Zero σ] [Add σ] (s : Searcher σ) (lines : List Text) :
    (s.judged lines).Pairwise fun a b => a.line < b.line := by
  have numbers : ((entriesOf s.kind lines).zipIdx.map Prod.fst).Pairwise
      fun d e => d.number < e.number := by
    rw [List.zipIdx_map_fst, entriesOf_eq_map, List.pairwise_map]
    exact (bodyFrom_increasing _ _ 0).imp Nat.succ_lt_succ
  apply (List.pairwise_map.mp numbers).filterMap
  intro d e before h isHit g isHitToo
  obtain ⟨-, rfl⟩ := s.judge?_eq_some_iff.mp isHit
  obtain ⟨-, rfl⟩ := s.judge?_eq_some_iff.mp isHitToo
  exact before

/-- The same search with another scorer. -/
def withScorer (s : Searcher ℚ) (scorer : Scorer ℚ) : Searcher ℚ := { s with scorer := scorer }

/-- The hits of one search among the hits of another one: the same lines or fewer, none with a
higher score. -/
def Among (fewer more : List (Hit ℚ)) : Prop :=
  List.SublistForall₂ (fun h g => h.unscored = g.unscored ∧ h.score ≤ g.score) fewer more

section Stricter

variable {strict loose : Scorer ℚ} (stricter : strict.Stricter loose) (s : Searcher ℚ)

include stricter

theorem sum_le_sum_of_stricter (text : Text) :
    (s.query.fuzzy.filterMap (strict text)).foldl (· + ·) 0 ≤
      (s.query.fuzzy.filterMap (loose text)).foldl (· + ·) 0 := by
  rw [← List.sum_eq_foldl, ← List.sum_eq_foldl]
  apply List.SublistForall₂.sum_le_sum
  · exact sublistForall₂_filterMap (fun term => stricter.found text term) s.query.fuzzy
  · intro score member
    obtain ⟨term, -, found⟩ := List.mem_filterMap.mp member
    exact stricter.nonnegative text term score found

theorem reports_of_stricter {chain : List Heading} {e : Entry}
    (reports : (s.withScorer strict).Reports chain e) : (s.withScorer loose).Reports chain e := by
  refine ⟨reports.inSection, reports.admitted, ?_⟩
  rcases reports.scored with noTerms | ⟨term, member, found⟩
  · exact .inl noTerms
  · obtain ⟨a, isFound⟩ := Option.isSome_iff_exists.mp found
    obtain ⟨b, isFoundToo, -⟩ := stricter.found _ term a isFound
    exact .inr ⟨term, member, Option.isSome_iff_exists.mpr ⟨b, isFoundToo⟩⟩

/-- A line that is reported stays reported with a scorer that is less strict. -/
theorem judge?_of_stricter {chain : List Heading} {e : Entry} {h : Hit ℚ}
    (judged : (s.withScorer strict).judge? chain e = some h) :
    ∃ g, (s.withScorer loose).judge? chain e = some g ∧
      h.unscored = g.unscored ∧ h.score ≤ g.score := by
  obtain ⟨reports, rfl⟩ := (judge?_eq_some_iff _).mp judged
  have stays := reports_of_stricter stricter s reports
  exact ⟨_, (judge?_eq_some_iff _).mpr ⟨stays, rfl⟩, rfl, sum_le_sum_of_stricter stricter s _⟩

theorem among_judged (lines : List Text) :
    Among ((s.withScorer strict).judged lines) ((s.withScorer loose).judged lines) :=
  sublistForall₂_filterMap (fun _ _ judged => judge?_of_stricter stricter s judged) _

end Stricter

namespace Among

variable {fewer more : List (Hit ℚ)}

theorem sublist (among : Among fewer more) :
    (fewer.map Hit.unscored).Sublist (more.map Hit.unscored) := by
  induction among with
  | nil => exact List.nil_sublist _
  | cons here _ induction =>
      rw [List.map_cons, List.map_cons, here.1]
      exact induction.cons_cons _
  | cons_right _ induction => exact induction.cons _

theorem exists_of_mem (among : Among fewer more) {h : Hit ℚ} (member : h ∈ fewer) :
    ∃ g ∈ more, h.unscored = g.unscored ∧ h.score ≤ g.score := by
  induction among with
  | nil => cases member
  | cons here _ induction =>
      rcases List.mem_cons.mp member with rfl | later
      · exact ⟨_, List.mem_cons_self, here⟩
      · obtain ⟨g, isMore, same⟩ := induction later
        exact ⟨g, List.mem_cons_of_mem _ isMore, same⟩
  | cons_right _ induction =>
      obtain ⟨g, isMore, same⟩ := induction member
      exact ⟨g, List.mem_cons_of_mem _ isMore, same⟩

theorem score_le (among : Among fewer more) (once : more.Pairwise fun a b => a.line < b.line)
    {h g : Hit ℚ} (isFewer : h ∈ fewer) (isMore : g ∈ more) (sameLine : h.line = g.line) :
    h.score ≤ g.score := by
  obtain ⟨k, isMoreToo, same, atMost⟩ := among.exists_of_mem isFewer
  have lines : (more.map (·.line)).Nodup :=
    (List.pairwise_map.mpr once).imp fun less => Nat.ne_of_lt less
  have line : k.line = g.line := (congrArg Hit.line same).symm.trans sameLine
  rw [← List.inj_on_of_nodup_map lines isMoreToo isMore line]
  exact atMost

end Among

end Searcher

namespace Similarity

/-- A measure that is cut off: it gives the whole similarity of a term and a text where that
reaches the cutoff, and zero elsewhere.  Similarities are out of a hundred. -/
structure CutsOff (measure : ℚ → Text → Text → ℚ) (whole : Text → Text → ℚ) : Prop where
  nonnegative : ∀ term text, 0 ≤ whole term text
  atMost : ∀ term text, whole term text ≤ 100
  measured : ∀ cutoff term text, 0 ≤ cutoff → cutoff ≤ 100 →
    measure cutoff term text = if cutoff ≤ whole term text then whole term text else 0

/-- The scorer of fuzzy terms with a measure and a cutoff, in exact numbers. -/
def exactScorer (measure : ℚ → Text → Text → ℚ) (cutoff : ℚ) : Scorer ℚ :=
  Scorer.ofSimilarity (· == 0) measure cutoff

theorem exactScorer_eq_some_iff {measure : ℚ → Text → Text → ℚ} {cutoff score : ℚ}
    {text term : Text} : exactScorer measure cutoff text term = some score ↔
      text ≠ [] ∧ term ≠ [] ∧ measure cutoff term text = score ∧ score ≠ 0 := by
  by_cases blank : text = [] ∨ term = []
  · rcases blank with rfl | rfl <;> simp [exactScorer, Scorer.ofSimilarity]
  · rw [not_or] at blank
    have scored : exactScorer measure cutoff text term =
        if measure cutoff term text = 0 then none else some (measure cutoff term text) := by
      simp [exactScorer, Scorer.ofSimilarity, blank]
    rw [scored]
    split
    · rename_i zero
      simp only [reduceCtorEq, false_iff]
      rintro ⟨-, -, rfl, nonzero⟩
      exact nonzero zero
    · rename_i nonzero
      constructor
      · intro found
        obtain rfl := Option.some.inj found
        exact ⟨blank.1, blank.2, rfl, nonzero⟩
      · rintro ⟨-, -, rfl, -⟩
        rfl

/-- A term is found if its similarity reaches the cutoff and is not zero, which is a score that
a cutoff of zero lets pass. -/
theorem CutsOff.measure_eq_iff {measure : ℚ → Text → Text → ℚ} {whole : Text → Text → ℚ}
    (cutsOff : CutsOff measure whole) {cutoff score : ℚ} (least : 0 ≤ cutoff)
    (most : cutoff ≤ 100) {term text : Text} (nonzero : score ≠ 0) :
    measure cutoff term text = score ↔ cutoff ≤ score ∧ whole term text = score := by
  rw [cutsOff.measured cutoff term text least most]
  split
  · rename_i reached
    constructor
    · rintro rfl
      exact ⟨reached, rfl⟩
    · exact And.right
  · rename_i missed
    constructor
    · intro zero
      exact (nonzero zero.symm).elim
    · rintro ⟨reached, rfl⟩
      exact (missed reached).elim

theorem stricter_of_le {measure : ℚ → Text → Text → ℚ} {whole : Text → Text → ℚ}
    (cutsOff : CutsOff measure whole) {low high : ℚ} (least : 0 ≤ low) (le : low ≤ high)
    (most : high ≤ 100) : (exactScorer measure high).Stricter (exactScorer measure low) := by
  constructor
  · intro text term score found
    obtain ⟨someText, someTerm, measured, nonzero⟩ := exactScorer_eq_some_iff.mp found
    obtain ⟨reached, similarity⟩ :=
      (cutsOff.measure_eq_iff (least.trans le) most nonzero).mp measured
    have measuredToo := (cutsOff.measure_eq_iff least (le.trans most) nonzero).mpr
      ⟨le.trans reached, similarity⟩
    exact ⟨score, exactScorer_eq_some_iff.mpr ⟨someText, someTerm, measuredToo, nonzero⟩, le_rfl⟩
  · intro text term score found
    obtain ⟨-, -, measured, nonzero⟩ := exactScorer_eq_some_iff.mp found
    obtain ⟨-, rfl⟩ := (cutsOff.measure_eq_iff least (le.trans most) nonzero).mp measured
    exact cutsOff.nonnegative term text

/-! ## A measure in exact numbers -/

/-- The similarity of a text and a part of another one. -/
def exactPart (short part : Text) : ℚ :=
  100 * (1 - (distance short part : ℚ) / ((short.length + part.length : ℕ) : ℚ))

/-- The similarity of a text and the part of a longer one that it fits best. -/
def exactBest (short long : Text) : ℚ :=
  let parts := windows short.length (long.length - short.length) long ++
    beginnings short short.length long ++ endings short short.length long
  (parts.map (exactPart short)).foldl max 0

/-- How well a text fits a part of one that is not shorter. -/
def exactFit (short long : Text) : ℚ :=
  if short.isEmpty then if long.isEmpty then 100 else 0
  else if short.length = long.length then max (exactBest short long) (exactBest long short)
  else exactBest short long

/-- How well a term fits a part of a text, or the text a part of the term, both taken apart into
words. -/
def exactSimilarity (term text : Text) : ℚ :=
  if (words term).length ≤ (words text).length then exactFit (words term) (words text)
  else exactFit (words text) (words term)

/-- The same, cut off. -/
def exactMeasure (cutoff : ℚ) (term text : Text) : ℚ :=
  if cutoff ≤ exactSimilarity term text then exactSimilarity term text else 0

theorem exactPart_between (short part : Text) :
    0 ≤ exactPart short part ∧ exactPart short part ≤ 100 := by
  have part_le : (distance short part : ℚ) / ((short.length + part.length : ℕ) : ℚ) ≤ 1 := by
    apply div_le_one_of_le₀
    · exact_mod_cast Nat.sub_le _ _
    · exact Nat.cast_nonneg _
  have nonnegative : 0 ≤ (distance short part : ℚ) / ((short.length + part.length : ℕ) : ℚ) :=
    div_nonneg (Nat.cast_nonneg _) (Nat.cast_nonneg _)
  unfold exactPart
  constructor <;> linarith

theorem foldl_max_between {scores : List ℚ} (each : ∀ x ∈ scores, 0 ≤ x ∧ x ≤ 100) {start : ℚ}
    (first : 0 ≤ start ∧ start ≤ 100) :
    0 ≤ scores.foldl max start ∧ scores.foldl max start ≤ 100 := by
  induction scores generalizing start with
  | nil => exact first
  | cons x rest induction =>
      rw [List.forall_mem_cons] at each
      exact induction each.2 ⟨le_max_of_le_left first.1, max_le first.2 each.1.2⟩

theorem exactBest_between (short long : Text) :
    0 ≤ exactBest short long ∧ exactBest short long ≤ 100 := by
  apply foldl_max_between _ ⟨le_rfl, by norm_num⟩
  intro x member
  obtain ⟨part, -, rfl⟩ := List.mem_map.mp member
  exact exactPart_between short part

theorem exactFit_between (short long : Text) :
    0 ≤ exactFit short long ∧ exactFit short long ≤ 100 := by
  have one := exactBest_between short long
  have other := exactBest_between long short
  unfold exactFit
  split
  · split <;> norm_num
  · split
    · exact ⟨le_max_of_le_left one.1, max_le one.2 other.2⟩
    · exact one

theorem exactSimilarity_between (term text : Text) :
    0 ≤ exactSimilarity term text ∧ exactSimilarity term text ≤ 100 := by
  unfold exactSimilarity
  split
  · exact exactFit_between _ _
  · exact exactFit_between _ _

theorem cutsOff_exactMeasure : CutsOff exactMeasure exactSimilarity where
  nonnegative term text := (exactSimilarity_between term text).1
  atMost term text := (exactSimilarity_between term text).2
  measured _ _ _ _ _ := rfl

end Similarity

namespace Searcher

/-- With a higher cutoff a search finds the same lines or fewer, and no line has a higher score,
where scores are added exactly. -/
theorem search_of_higher_cutoff {measure : ℚ → Text → Text → ℚ} {whole : Text → Text → ℚ}
    (cutsOff : Similarity.CutsOff measure whole) {low high : ℚ} (least : 0 ≤ low)
    (le : low ≤ high) (most : high ≤ 100) (s : Searcher ℚ) (lines : List Text) :
    ∃ more fewer,
      (s.withScorer (Similarity.exactScorer measure low)).search lines = s.reported more ∧
      (s.withScorer (Similarity.exactScorer measure high)).search lines = s.reported fewer ∧
      (s.path.isAllBlank = false → s.reported more = .passed more ∧
        s.reported fewer = .passed fewer) ∧
      (fewer.map Hit.unscored).Sublist (more.map Hit.unscored) ∧
      ∀ h ∈ fewer, ∀ g ∈ more, h.line = g.line → h.score ≤ g.score := by
  have among := among_judged (Similarity.stricter_of_le cutsOff least le most) s lines
  refine ⟨_, _, search_eq_reported _ lines, search_eq_reported _ lines, ?_, among.sublist, ?_⟩
  · intro pathText
    exact ⟨reported_of_not_blank pathText _, reported_of_not_blank pathText _⟩
  · intro h isFewer g isMore sameLine
    exact among.score_le (pairwise_judged _ lines) isFewer isMore sameLine

/-- Of two terms in a line one is cut off, which lowers its score, and a line with this term
alone is found no longer.  The scores are those of the measure in floating-point numbers. -/
theorem search_of_higher_cutoff_two_terms :
    let query : Query := ⟨[], [], [], [], ["abcd".toList, "xyz".toList]⟩
    let lines := ["* abed xyz", "* abed", "* noise", "* abcd"].map String.toList
    let s : Searcher ℚ := { query := query, scorer := fun _ _ => none }
    let floating : Searcher Binary64 :=
      { query := query, scorer := Similarity.scorer (Binary64.ofNat 60) }
    (0 : ℚ) ≤ 60 ∧ (60 : ℚ) ≤ 80 ∧ (80 : ℚ) ≤ 100 ∧
      Similarity.CutsOff Similarity.exactMeasure Similarity.exactSimilarity ∧
      (∃ more fewer,
        (s.withScorer (Similarity.exactScorer Similarity.exactMeasure 60)).search lines =
          .passed more ∧
        (s.withScorer (Similarity.exactScorer Similarity.exactMeasure 80)).search lines =
          .passed fewer ∧
        more.map (fun g => (g.line, g.score)) = [(1, 175), (2, 75), (4, 100)] ∧
        fewer.map (fun h => (h.line, h.score)) = [(1, 100), (4, 100)] ∧
        (fewer.map Hit.unscored).Sublist (more.map Hit.unscored) ∧
        ∀ h ∈ fewer, ∀ g ∈ more, h.line = g.line → h.score ≤ g.score) ∧
      (floating.search lines).toExcept.toOption.map (·.map fun g => (g.line, g.score)) =
        some [(1, .ofNat 175), (2, .ofNat 75), (4, .ofNat 100)] := by
  intro query lines s floating
  have loose : ((s.withScorer (Similarity.exactScorer Similarity.exactMeasure 60)).search
      lines).toExcept.toOption.map (·.map fun g => (g.line, g.score)) =
        some [(1, 175), (2, 75), (4, 100)] := by decide +kernel
  have strict : ((s.withScorer (Similarity.exactScorer Similarity.exactMeasure 80)).search
      lines).toExcept.toOption.map (·.map fun h => (h.line, h.score)) =
        some [(1, 100), (4, 100)] := by decide +kernel
  have least : (0 : ℚ) ≤ 60 := by norm_num
  have le : (60 : ℚ) ≤ 80 := by norm_num
  have most : (80 : ℚ) ≤ 100 := by norm_num
  obtain ⟨more, fewer, searched, searchedToo, reported, sublist, scores⟩ :=
    search_of_higher_cutoff Similarity.cutsOff_exactMeasure least le most s lines
  obtain ⟨moreReported, fewerReported⟩ := reported (by decide +kernel)
  rw [searched, moreReported] at loose
  rw [searchedToo, fewerReported] at strict
  refine ⟨least, le, most, Similarity.cutsOff_exactMeasure, ⟨more, fewer, ?_⟩, ?_⟩
  · exact ⟨searched.trans moreReported, searchedToo.trans fewerReported, Option.some.inj loose,
      Option.some.inj strict, sublist, scores⟩
  · decide +kernel

end Searcher

end OutlineSearch
