import Mathlib.Data.List.Induction
import OutlineSearch.Search.Searcher

/-!
# The chain of a position

The chain is cut by counting its headings, while a heading asks for its own depth.  The two
agree only where no level is left out.  What every heading preserves is `Position.Layered`:
a heading stands at a place that is less than its depth, and the last one has the depth of
the position.  Hence the cut never fails, and it removes no heading that is less deep than
the new one.
-/

namespace OutlineSearch

namespace Position

/-- The places of the headings in a chain compared with their depths. -/
structure Layered (p : Position) : Prop where
  deep : ∀ index (heading : Heading), p.chain[index]? = some heading → index < heading.depth
  innermost : (p.chain.getLast?.map (·.depth)).getD 0 = p.depth

/-- How many headings of the chain stay above a new heading. -/
def kept (p : Position) (h : Heading) : Nat :=
  if p.depth < h.depth then p.chain.length else min h.depth p.chain.length - 1

theorem kept_le_length (p : Position) (h : Heading) : p.kept h ≤ p.chain.length := by
  unfold kept
  split <;> omega

theorem length_take_kept (p : Position) (h : Heading) :
    (p.chain.take (p.kept h)).length = p.kept h :=
  List.length_take_of_le (p.kept_le_length h)

theorem getElem?_take_kept_concat {p : Position} {h heading : Heading} {index : Nat}
    (found : (p.chain.take (p.kept h) ++ [h])[index]? = some heading) :
    p.chain[index]? = some heading ∨ index = p.kept h ∧ heading = h := by
  have keptLength := p.length_take_kept h
  rcases Nat.lt_trichotomy index (p.kept h) with before | same | behind
  · left
    rwa [List.getElem?_append_left (by omega), List.getElem?_take_of_lt before] at found
  · right
    rw [List.getElem?_append_right (by omega), keptLength, same] at found
    simp only [Nat.sub_self, List.getElem?_cons_zero, Option.some.injEq] at found
    exact ⟨same, found.symm⟩
  · rw [List.getElem?_eq_none (by simp [keptLength]; omega)] at found
    cases found

theorem layered_start : start.Layered := by
  constructor
  · intro index heading found
    simp [start] at found
  · rfl

theorem replaceLast?_eq {chain : List Heading} (nonempty : chain ≠ []) (h : Heading) :
    replaceLast? h chain = some (chain.take (chain.length - 1) ++ [h]) := by
  cases chain with
  | nil => exact (nonempty rfl).elim
  | cons first rest => simp [replaceLast?, List.dropLast_eq_take]

namespace Layered

variable {p : Position} {h : Heading}

theorem congr {other : Position} (layered : p.Layered) (chain : other.chain = p.chain)
    (depth : other.depth = p.depth) : other.Layered := by
  constructor
  · rw [chain]
    exact layered.deep
  · rw [chain, depth]
    exact layered.innermost

theorem last_depth (layered : p.Layered) {heading : Heading}
    (found : p.chain[p.chain.length - 1]? = some heading) :
    heading.depth = p.depth := by
  have innermost := layered.innermost
  rw [List.getLast?_eq_getElem?, found] at innermost
  exact innermost

theorem chain_ne_nil (layered : p.Layered) (inside : p.depth ≠ 0) : p.chain ≠ [] := by
  intro empty
  have innermost := layered.innermost
  simp only [empty, List.getLast?_nil, Option.map_none, Option.getD_none] at innermost
  exact inside innermost.symm

theorem exists_last (layered : p.Layered) (nonempty : p.chain ≠ []) :
    ∃ heading, p.chain[p.chain.length - 1]? = some heading ∧ heading.depth = p.depth := by
  have positive : 0 < p.chain.length := List.length_pos_iff.mpr nonempty
  have found : p.chain[p.chain.length - 1]? = some p.chain[p.chain.length - 1] :=
    List.getElem?_eq_getElem (by omega)
  exact ⟨_, found, layered.last_depth found⟩

theorem length_le_depth (layered : p.Layered) : p.chain.length ≤ p.depth := by
  by_cases empty : p.chain = []
  · simp [empty]
  · obtain ⟨heading, found, depth⟩ := layered.exists_last empty
    have below := layered.deep _ _ found
    omega

/-- A heading always finds its place, below the headings that `kept` counts. -/
theorem chainWith?_eq (layered : p.Layered) (positive : 1 ≤ h.depth) :
    p.chainWith? h = some (p.chain.take (p.kept h) ++ [h]) := by
  have short := layered.length_le_depth
  unfold chainWith? kept
  split
  · simp
  · rename_i notDeeper
    have nonempty : p.chain ≠ [] := layered.chain_ne_nil (by omega)
    have lengthPositive : 0 < p.chain.length := List.length_pos_iff.mpr nonempty
    split
    · have whole : min h.depth p.chain.length = p.chain.length := by omega
      rw [replaceLast?_eq nonempty, whole]
    · have cutNonempty : p.chain.take h.depth ≠ [] := by
        intro empty
        have cutLength := congrArg List.length empty
        simp only [List.length_take, List.length_nil] at cutLength
        omega
      rw [replaceLast?_eq cutNonempty, List.length_take, List.take_take]
      congr 3
      omega

/-- Only headings that a new heading closes are cut off. -/
theorem depth_le_of_mem_drop (layered : p.Layered) {heading : Heading}
    (member : heading ∈ p.chain.drop (p.kept h)) : h.depth ≤ heading.depth := by
  obtain ⟨place, found⟩ := List.mem_iff_getElem?.mp member
  rw [List.getElem?_drop] at found
  obtain ⟨inRange, -⟩ := List.getElem?_eq_some_iff.mp found
  have below := layered.deep _ _ found
  by_cases deeper : p.depth < h.depth
  · have all : p.kept h = p.chain.length := by simp [kept, deeper]
    omega
  · have cut : p.kept h = min h.depth p.chain.length - 1 := by simp [kept, deeper]
    by_cases atPlace : h.depth ≤ p.kept h + place + 1
    · omega
    -- The chain is shorter than the new heading is deep, so only its last heading is cut off.
    · have isLast : p.kept h + place = p.chain.length - 1 := by omega
      rw [isLast] at found
      have sameDepth := layered.last_depth found
      omega

theorem kept_lt_depth (layered : p.Layered) (positive : 1 ≤ h.depth) :
    p.kept h < h.depth := by
  have short := layered.length_le_depth
  unfold kept
  split <;> omega

/-- What the layers look like below a new heading. -/
theorem below (layered : p.Layered) (positive : 1 ≤ h.depth) (skipping : Bool) :
    Layered ⟨p.chain.take (p.kept h) ++ [h], h.depth, skipping⟩ := by
  constructor
  · intro index heading found
    rcases getElem?_take_kept_concat found with above | ⟨rfl, rfl⟩
    · exact layered.deep index heading above
    · exact layered.kept_lt_depth positive
  · simp

end Layered

end Position

namespace Searcher

variable {σ : Type}

/-- Whether a section with this chain is searched. -/
def searches (s : Searcher σ) (chain : List Heading) : Bool :=
  s.criteria.active.isEmpty || chain.getLast?.any (s.criteria.accepts chain)

/-- The position behind a sequence of headings. -/
def positionAfter (s : Searcher σ) (headings : List Heading) : Position :=
  headings.foldl (fun p h => s.enter h p) .start

@[simp] theorem positionAfter_nil (s : Searcher σ) : s.positionAfter [] = .start := rfl

@[simp] theorem positionAfter_concat (s : Searcher σ) (headings : List Heading) (h : Heading) :
    s.positionAfter (headings ++ [h]) = s.enter h (s.positionAfter headings) := by
  simp [positionAfter]

variable {p : Position} {h : Heading}

/-- Neither the chain nor the criteria can fail at a heading. -/
theorem enter?_eq (s : Searcher σ) (layered : p.Layered) (positive : 1 ≤ h.depth) :
    s.enter? h p = some
      ⟨p.chain.take (p.kept h) ++ [h], h.depth,
        !s.searches (p.chain.take (p.kept h) ++ [h])⟩ := by
  by_cases unrestricted : s.criteria.active.isEmpty
  · simp [enter?, qualifies?, searches, layered.chainWith?_eq positive, unrestricted]
  · simp [enter?, qualifies?, searches, layered.chainWith?_eq positive, unrestricted]

theorem enter_eq (s : Searcher σ) (layered : p.Layered) (positive : 1 ≤ h.depth) :
    s.enter h p =
      ⟨p.chain.take (p.kept h) ++ [h], h.depth,
        !s.searches (p.chain.take (p.kept h) ++ [h])⟩ := by
  simp [enter, s.enter?_eq layered positive]

/-- Whether the lines before a heading are searched makes no difference behind it. -/
theorem enter_congr (s : Searcher σ) {other : Position} (layered : p.Layered)
    (positive : 1 ≤ h.depth) (chain : other.chain = p.chain) (depth : other.depth = p.depth) :
    s.enter h other = s.enter h p := by
  have sameKept : other.kept h = p.kept h := by simp [Position.kept, chain, depth]
  rw [s.enter_eq (layered.congr chain depth) positive, s.enter_eq layered positive, sameKept,
    chain]

theorem layered_enter (s : Searcher σ) (layered : p.Layered) (positive : 1 ≤ h.depth) :
    (s.enter h p).Layered := by
  rw [s.enter_eq layered positive]
  exact layered.below positive _

theorem layered_positionAfter (s : Searcher σ) {headings : List Heading}
    (positive : ∀ h ∈ headings, 1 ≤ h.depth) : (s.positionAfter headings).Layered := by
  induction headings using List.reverseRecOn with
  | nil => exact Position.layered_start
  | append_singleton headings h induction =>
      rw [List.forall_mem_append, List.forall_mem_singleton] at positive
      obtain ⟨earlier, last⟩ := positive
      rw [positionAfter_concat]
      exact s.layered_enter (induction earlier) last

/-- The position behind a sequence of headings is reached without a failure. -/
theorem foldlM_enter? (s : Searcher σ) {headings : List Heading}
    (positive : ∀ h ∈ headings, 1 ≤ h.depth) :
    headings.foldlM (fun p h => s.enter? h p) .start = some (s.positionAfter headings) := by
  induction headings using List.reverseRecOn with
  | nil => rfl
  | append_singleton headings h induction =>
      rw [List.forall_mem_append, List.forall_mem_singleton] at positive
      obtain ⟨earlier, last⟩ := positive
      have layered := s.layered_positionAfter earlier
      rw [List.foldlM_append, induction earlier, positionAfter_concat]
      simp [s.enter?_eq layered last, s.enter_eq layered last]

end Searcher

end OutlineSearch
