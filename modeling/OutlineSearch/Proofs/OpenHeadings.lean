import Mathlib.Data.List.Chain
import OutlineSearch.Proofs.Chain

/-!
# Open headings

A heading closes every open heading that is not less deep than itself.  The chain of a
position is meant to be the list of open headings, but a cut by number can leave a closed
heading above the new one: after depths 2, 4, 2 the first heading is still there.

What holds of every sequence of headings is that the open headings are those headings of the
chain that are less deep than all behind them.  So no open heading is ever missing, and the
chain is the list of open headings exactly if its depths increase.
-/

namespace OutlineSearch

/-- The open headings behind one more heading. -/
def openWith (opened : List Heading) (h : Heading) : List Heading :=
  opened.filter (fun heading => heading.depth < h.depth) ++ [h]

/-- The headings that are open behind a sequence of headings, the outermost first. -/
def openHeadings (headings : List Heading) : List Heading := headings.foldl openWith []

@[simp] theorem openHeadings_concat (headings : List Heading) (h : Heading) :
    openHeadings (headings ++ [h]) = openWith (openHeadings headings) h := by
  simp [openHeadings]

theorem getLast?_openHeadings (headings : List Heading) :
    (openHeadings headings).getLast? = headings.getLast? := by
  induction headings using List.reverseRecOn with
  | nil => rfl
  | append_singleton headings h _ => simp [openWith]

/-- Tags and properties that some headings carry are carried by any chain that holds these
headings. -/
theorem Criteria.meets_of_subset (c : Criteria) {some more : List Heading}
    (subset : some ⊆ more) {innermost : Heading} {kind : Filter}
    (inherited : kind = .tags ∨ kind = .properties) (met : c.meets some innermost kind) :
    c.meets more innermost kind := by
  rcases inherited with rfl | rfl
  · simp only [meets, List.all_eq_true, List.any_eq_true] at met ⊢
    intro tag member
    obtain ⟨heading, inSome, carried⟩ := met tag member
    exact ⟨heading, subset inSome, carried⟩
  · simp only [meets, List.all_eq_true, List.any_eq_true] at met ⊢
    intro entry member
    obtain ⟨heading, inSome, carried⟩ := met entry member
    exact ⟨heading, subset inSome, carried⟩

/-- The headings of a chain that are less deep than all behind them. -/
def enclosing : List Heading → List Heading
  | [] => []
  | h :: rest =>
    if rest.all (fun heading => h.depth < heading.depth) then h :: enclosing rest
    else enclosing rest

theorem enclosing_cons_of_outermost {h : Heading} {rest : List Heading}
    (outermost : ∀ heading ∈ rest, h.depth < heading.depth) :
    enclosing (h :: rest) = h :: enclosing rest := by
  have test : rest.all (fun heading => h.depth < heading.depth) = true := by
    simpa using outermost
  rw [enclosing, if_pos test]

theorem enclosing_cons_of_closed {h : Heading} {rest : List Heading}
    (closed : ¬∀ heading ∈ rest, h.depth < heading.depth) :
    enclosing (h :: rest) = enclosing rest := by
  have test : ¬rest.all (fun heading => h.depth < heading.depth) = true := by
    simpa using closed
  rw [enclosing, if_neg test]

theorem enclosing_sublist (chain : List Heading) : (enclosing chain).Sublist chain := by
  induction chain with
  | nil => exact .slnil
  | cons h rest induction =>
      unfold enclosing
      split
      · exact .cons_cons h induction
      · exact .cons h induction

/-- A heading that the next one closes does not count below it. -/
theorem openWith_enclosing_cons {first h : Heading} (rest : List Heading)
    (notLess : ¬first.depth < h.depth) :
    openWith (enclosing (first :: rest)) h = openWith (enclosing rest) h := by
  by_cases outermost : ∀ heading ∈ rest, first.depth < heading.depth
  · rw [enclosing_cons_of_outermost outermost]
    simp [openWith, notLess]
  · rw [enclosing_cons_of_closed outermost]

theorem openWith_cons {first h : Heading} (less : first.depth < h.depth)
    (opened : List Heading) :
    openWith (first :: opened) h = first :: openWith opened h := by
  simp [openWith, less]

theorem enclosing_concat (chain : List Heading) (h : Heading) :
    enclosing (chain ++ [h]) = openWith (enclosing chain) h := by
  induction chain with
  | nil => rfl
  | cons first rest induction =>
      rw [List.cons_append]
      by_cases less : first.depth < h.depth
      · by_cases outermost : ∀ heading ∈ rest, first.depth < heading.depth
        · have outermostStill : ∀ heading ∈ rest ++ [h], first.depth < heading.depth := by
            intro heading member
            rcases List.mem_append.mp member with inRest | isNew
            · exact outermost heading inRest
            · rwa [List.mem_singleton.mp isNew]
          rw [enclosing_cons_of_outermost outermostStill,
            enclosing_cons_of_outermost outermost, induction, openWith_cons less]
        · have closedStill : ¬∀ heading ∈ rest ++ [h], first.depth < heading.depth :=
            fun all => outermost fun heading member => all heading (by simp [member])
          rw [enclosing_cons_of_closed closedStill, enclosing_cons_of_closed outermost,
            induction]
      · have closedNow : ¬∀ heading ∈ rest ++ [h], first.depth < heading.depth :=
          fun all => less (all h (by simp))
        rw [enclosing_cons_of_closed closedNow, openWith_enclosing_cons rest less, induction]

/-- Headings that a new heading closes can be cut off before it is added. -/
theorem openWith_enclosing_append (chain : List Heading) {cut : List Heading}
    {h : Heading} (deep : ∀ heading ∈ cut, h.depth ≤ heading.depth) :
    openWith (enclosing (chain ++ cut)) h = openWith (enclosing chain) h := by
  induction chain with
  | nil =>
      have gone : (enclosing cut).filter (fun heading => heading.depth < h.depth) = [] := by
        rw [List.filter_eq_nil_iff]
        intro heading member
        have bound := deep heading ((enclosing_sublist cut).subset member)
        simpa using bound
      simp [openWith, enclosing, gone]
  | cons first rest induction =>
      rw [List.cons_append]
      by_cases less : first.depth < h.depth
      · have overCut : ∀ heading ∈ cut, first.depth < heading.depth :=
          fun heading member => Nat.lt_of_lt_of_le less (deep heading member)
        by_cases outermost : ∀ heading ∈ rest, first.depth < heading.depth
        · have overBoth : ∀ heading ∈ rest ++ cut, first.depth < heading.depth := by
            intro heading member
            rcases List.mem_append.mp member with inRest | inCut
            · exact outermost heading inRest
            · exact overCut heading inCut
          rw [enclosing_cons_of_outermost overBoth, enclosing_cons_of_outermost outermost,
            openWith_cons less, openWith_cons less, induction]
        · have notOverBoth : ¬∀ heading ∈ rest ++ cut, first.depth < heading.depth :=
            fun all => outermost fun heading member => all heading (by simp [member])
          rw [enclosing_cons_of_closed notOverBoth, enclosing_cons_of_closed outermost,
            induction]
      · rw [openWith_enclosing_cons _ less, openWith_enclosing_cons _ less, induction]

theorem enclosing_eq_self_iff (chain : List Heading) :
    enclosing chain = chain ↔ chain.Pairwise (fun outer inner => outer.depth < inner.depth) := by
  induction chain with
  | nil => simp [enclosing]
  | cons h rest induction =>
      rw [List.pairwise_cons, ← induction]
      by_cases outermost : ∀ heading ∈ rest, h.depth < heading.depth
      · rw [enclosing_cons_of_outermost outermost, List.cons.injEq]
        exact ⟨fun same => ⟨outermost, same.2⟩, fun both => ⟨rfl, both.2⟩⟩
      · rw [enclosing_cons_of_closed outermost]
        constructor
        · intro equality
          have shorter := (enclosing_sublist rest).length_le
          rw [equality, List.length_cons] at shorter
          omega
        · intro both
          exact (outermost both.1).elim

/-- Every level down to the last heading has a heading in the chain. -/
def Position.Gapless (p : Position) : Prop :=
  ∀ index (heading : Heading), p.chain[index]? = some heading → heading.depth = index + 1

namespace Position.Layered

variable {p : Position} {h : Heading}

/-- Only what stands above the cut can stay open. -/
theorem filter_take_kept (layered : p.Layered) :
    (p.chain.take (p.kept h)).filter (fun heading => heading.depth < h.depth) =
      p.chain.filter (fun heading => heading.depth < h.depth) := by
  have gone : (p.chain.drop (p.kept h)).filter
      (fun heading => heading.depth < h.depth) = [] := by
    rw [List.filter_eq_nil_iff]
    intro heading member
    have bound := layered.depth_le_of_mem_drop member
    simpa using bound
  conv_rhs => rw [← List.take_append_drop (p.kept h) p.chain, List.filter_append, gone,
    List.append_nil]

/-- In a chain of increasing depths no heading is deeper than the last one. -/
theorem depth_le_of_mem (layered : p.Layered)
    (increasing : p.chain.Pairwise (fun outer inner => outer.depth < inner.depth))
    {heading : Heading} (member : heading ∈ p.chain) : heading.depth ≤ p.depth := by
  obtain ⟨index, inRange, rfl⟩ := List.mem_iff_getElem.mp member
  have found : p.chain[p.chain.length - 1]? = some p.chain[p.chain.length - 1] :=
    List.getElem?_eq_getElem (by omega)
  rw [← layered.last_depth found]
  by_cases isLast : index = p.chain.length - 1
  · simp [isLast]
  · have ordered := List.pairwise_iff_getElem.mp increasing index (p.chain.length - 1)
      inRange (by omega) (by omega)
    omega

theorem length_eq_depth_of_gapless (layered : p.Layered) (gapless : p.Gapless) :
    p.chain.length = p.depth := by
  by_cases empty : p.chain = []
  · have innermost := layered.innermost
    simpa [empty] using innermost
  · obtain ⟨heading, found, depth⟩ := layered.exists_last empty
    have positive := List.length_pos_iff.mpr empty
    have place := gapless _ _ found
    omega

/-- Where every level is in use, a heading at most one level deeper leaves none out. -/
theorem gapless_below (layered : p.Layered) (gapless : p.Gapless) (positive : 1 ≤ h.depth)
    (oneDeeper : h.depth ≤ p.depth + 1) (skipping : Bool) :
    Gapless ⟨p.chain.take (p.kept h) ++ [h], h.depth, skipping⟩ := by
  have full := layered.length_eq_depth_of_gapless gapless
  have place : p.kept h + 1 = h.depth := by
    unfold kept
    split <;> omega
  intro index heading found
  rcases getElem?_take_kept_concat found with above | ⟨rfl, rfl⟩
  · exact gapless index heading above
  · exact place.symm

end Position.Layered

theorem Position.Gapless.increasing {p : Position} (gapless : p.Gapless) :
    p.chain.Pairwise (fun outer inner => outer.depth < inner.depth) := by
  rw [List.pairwise_iff_getElem]
  intro outer inner outerInRange innerInRange ordered
  rw [gapless outer _ (List.getElem?_eq_getElem outerInRange),
    gapless inner _ (List.getElem?_eq_getElem innerInRange)]
  omega

/-- A heading closes at most one open heading, or every level above it is in use. -/
def ClosesInStep (opened : List Heading) (h : Heading) : Prop :=
  let outer := (opened.filter fun heading => heading.depth < h.depth).length
  opened.length ≤ outer + 1 ∨ outer + 1 = h.depth

namespace Searcher

variable {σ : Type} {headings : List Heading}

theorem openHeadings_eq_enclosing_chain (s : Searcher σ)
    (positive : ∀ h ∈ headings, 1 ≤ h.depth) :
    openHeadings headings = enclosing (s.positionAfter headings).chain := by
  induction headings using List.reverseRecOn with
  | nil => rfl
  | append_singleton headings h induction =>
      rw [List.forall_mem_append, List.forall_mem_singleton] at positive
      obtain ⟨earlier, last⟩ := positive
      have layered := s.layered_positionAfter earlier
      let p := s.positionAfter headings
      calc
        openHeadings (headings ++ [h]) = openWith (enclosing p.chain) h := by
          rw [openHeadings_concat, induction earlier]
        _ = openWith (enclosing (p.chain.take (p.kept h) ++ p.chain.drop (p.kept h))) h := by
          rw [List.take_append_drop]
        _ = openWith (enclosing (p.chain.take (p.kept h))) h :=
          openWith_enclosing_append _ fun _ member => layered.depth_le_of_mem_drop member
        _ = enclosing (s.positionAfter (headings ++ [h])).chain := by
          rw [positionAfter_concat, s.enter_eq layered last, enclosing_concat]

/-- Every open heading is in the chain, in the same order. -/
theorem openHeadings_sublist_chain (s : Searcher σ)
    (positive : ∀ h ∈ headings, 1 ≤ h.depth) :
    (openHeadings headings).Sublist (s.positionAfter headings).chain := by
  rw [s.openHeadings_eq_enclosing_chain positive]
  exact enclosing_sublist _

theorem chain_eq_openHeadings_iff_pairwise (s : Searcher σ)
    (positive : ∀ h ∈ headings, 1 ≤ h.depth) :
    (s.positionAfter headings).chain = openHeadings headings ↔
      (s.positionAfter headings).chain.Pairwise
        (fun outer inner => outer.depth < inner.depth) := by
  rw [s.openHeadings_eq_enclosing_chain positive, eq_comm, enclosing_eq_self_iff]

/-- Where the chain is the list of open headings, one more heading keeps it so exactly if it
closes in step. -/
theorem chain_concat_eq_openHeadings_iff (s : Searcher σ) {h : Heading}
    (positive : ∀ heading ∈ headings, 1 ≤ heading.depth) (last : 1 ≤ h.depth)
    (agrees : (s.positionAfter headings).chain = openHeadings headings) :
    (s.positionAfter (headings ++ [h])).chain = openHeadings (headings ++ [h]) ↔
      ClosesInStep (openHeadings headings) h := by
  have layered := s.layered_positionAfter positive
  have increasing := (s.chain_eq_openHeadings_iff_pairwise positive).mp agrees
  rw [positionAfter_concat, s.enter_eq layered last, openHeadings_concat, ← agrees]
  generalize s.positionAfter headings = p at layered increasing
  have keptLength := p.length_take_kept h
  have outerSublist := List.filter_sublist
    (p := fun heading : Heading => heading.depth < h.depth) (l := p.chain.take (p.kept h))
  rw [layered.filter_take_kept] at outerSublist
  have outerLength := outerSublist.length_le
  -- What the cut keeps contains what stays open, so the two are compared by length.
  have byLength : p.chain.take (p.kept h) ++ [h] = openWith p.chain h ↔
      (p.chain.filter fun heading => heading.depth < h.depth).length = p.kept h := by
    rw [openWith, List.append_cancel_right_eq]
    constructor
    · intro equality
      rw [← equality, keptLength]
    · intro sameLength
      exact (outerSublist.eq_of_length (by rw [sameLength, keptLength])).symm
  rw [byLength, ClosesInStep]
  by_cases deeper : p.depth < h.depth
  · have allOuter : p.chain.filter (fun heading => heading.depth < h.depth) = p.chain := by
      rw [List.filter_eq_self]
      intro heading member
      have bound := layered.depth_le_of_mem increasing member
      simp only [decide_eq_true_eq]
      omega
    simp [allOuter, Position.kept, deeper]
  · have cut : p.kept h = min h.depth p.chain.length - 1 := by simp [Position.kept, deeper]
    have nonempty : 0 < p.chain.length :=
      List.length_pos_iff.mpr (layered.chain_ne_nil (by omega))
    omega

theorem getLast?_chain (s : Searcher σ) (positive : ∀ h ∈ headings, 1 ≤ h.depth) :
    (s.positionAfter headings).chain.getLast? = headings.getLast? := by
  induction headings using List.reverseRecOn with
  | nil => rfl
  | append_singleton headings h _ =>
      rw [List.forall_mem_append, List.forall_mem_singleton] at positive
      obtain ⟨earlier, last⟩ := positive
      have layered := s.layered_positionAfter earlier
      rw [positionAfter_concat, s.enter_eq layered last]
      simp

theorem depth_positionAfter (s : Searcher σ) (positive : ∀ h ∈ headings, 1 ≤ h.depth) :
    (s.positionAfter headings).depth = (headings.getLast?.map (·.depth)).getD 0 := by
  rw [← (s.layered_positionAfter positive).innermost, s.getLast?_chain positive]

/-- Where the first heading has depth one and none is more than one level deeper than the
one before it, no level is left out. -/
theorem gapless_positionAfter (s : Searcher σ) (positive : ∀ h ∈ headings, 1 ≤ h.depth)
    (first : ∀ h ∈ headings.head?, h.depth = 1)
    (steps : headings.IsChain (fun before h => h.depth ≤ before.depth + 1)) :
    (s.positionAfter headings).Gapless := by
  induction headings using List.reverseRecOn with
  | nil =>
      intro index heading found
      simp [Position.start] at found
  | append_singleton headings h induction =>
      rw [List.forall_mem_append, List.forall_mem_singleton] at positive
      obtain ⟨earlier, last⟩ := positive
      have layered := s.layered_positionAfter earlier
      obtain ⟨earlierSteps, -, lastStep⟩ := List.isChain_append.mp steps
      have gapless : (s.positionAfter headings).Gapless := by
        refine induction earlier ?_ earlierSteps
        intro h member
        exact first h (by simp [Option.mem_def.mp member])
      have oneDeeper : h.depth ≤ (s.positionAfter headings).depth + 1 := by
        rw [s.depth_positionAfter earlier]
        cases lastHeading : headings.getLast? with
        | none =>
            have empty : headings = [] := List.getLast?_eq_none_iff.mp lastHeading
            have isFirst := first h (by simp [empty])
            simp [isFirst]
        | some before => exact lastStep before (by simp [lastHeading]) h (by simp)
      rw [positionAfter_concat, s.enter_eq layered last]
      exact layered.gapless_below gapless last oneDeeper _

/-- The chain is the list of open headings exactly if its depths increase; and it is so
behind each heading of a sequence exactly if each closes in step. -/
theorem chain_eq_openHeadings_iff (s : Searcher σ) (headings : List Heading)
    (positive : ∀ h ∈ headings, 1 ≤ h.depth) :
    ((s.positionAfter headings).chain = openHeadings headings ↔
      (s.positionAfter headings).chain.Pairwise
        (fun outer inner => outer.depth < inner.depth)) ∧
    ((∀ before, before <+: headings →
        (s.positionAfter before).chain = openHeadings before) ↔
      ∀ before h, before ++ [h] <+: headings → ClosesInStep (openHeadings before) h) := by
  have positivePrefix : ∀ before, before <+: headings → ∀ h ∈ before, 1 ≤ h.depth :=
    fun before isPrefix h member => positive h (isPrefix.subset member)
  refine ⟨s.chain_eq_openHeadings_iff_pairwise positive, ?_, ?_⟩
  · intro agrees before h isPrefix
    have earlier : before <+: headings := (List.prefix_append before [h]).trans isPrefix
    exact (s.chain_concat_eq_openHeadings_iff (positivePrefix before earlier)
      (positivePrefix _ isPrefix h (by simp)) (agrees before earlier)).mp (agrees _ isPrefix)
  · intro inStep before isPrefix
    induction before using List.reverseRecOn with
    | nil => rfl
    | append_singleton before h induction =>
        have earlier : before <+: headings := (List.prefix_append before [h]).trans isPrefix
        exact (s.chain_concat_eq_openHeadings_iff (positivePrefix before earlier)
          (positivePrefix _ isPrefix h (by simp)) (induction earlier)).mpr
          (inStep before h isPrefix)

/-- A level is left out and then filled, and the chain is still right. -/
theorem chain_eq_openHeadings_of_jump :
    let s : Searcher Binary64 := { query := .empty, scorer := fun _ _ => none }
    let headings := ["* one", "*** three", "** two"].filterMap
      (fun line => Heading.ofLine? .org 1 line.toList)
    (∀ h ∈ headings, 1 ≤ h.depth) ∧
      (s.positionAfter headings).chain = openHeadings headings := by
  intro s headings
  have positive : ∀ h ∈ headings, 1 ≤ h.depth := by decide +kernel
  have increasing : (s.positionAfter headings).chain.Pairwise
      (fun outer inner => outer.depth < inner.depth) := by decide +kernel
  exact ⟨positive, (s.chain_eq_openHeadings_iff headings positive).1.mpr increasing⟩

/-- The first of the headings is closed by the third, and what it carries still counts. -/
theorem closed_heading_stays_in_chain :
    let s : Searcher Binary64 :=
      { query := .empty, criteria := { tagged := ["work".toList] }, scorer := fun _ _ => none }
    let lines := ["** old :work:", "**** detail", "** new", "text"].map String.toList
    let headings := lines.filterMap (Heading.ofLine? .org 1)
    (∀ h ∈ headings, 1 ≤ h.depth) ∧
      (s.positionAfter headings).chain ≠ openHeadings headings ∧
      (s.positionAfter headings).chain.map (·.depth) = [2, 2] ∧
      (openHeadings headings).map (·.tags) = [[]] ∧
      (s.search lines).toExcept.toOption.map (·.map (·.line)) = some [1, 2, 3, 4] := by
  decide +kernel

/-- What every sequence of headings leads to: no failure, a chain whose headings lie at least
as deep as their places and that ends with the last heading, and every open heading in it. -/
theorem positionAfter_covers_openHeadings (s : Searcher σ) (headings : List Heading)
    (positive : ∀ h ∈ headings, 1 ≤ h.depth) :
    ∃ p : Position, headings.foldlM (fun p h => s.enter? h p) .start = some p ∧
      (∀ index (heading : Heading), p.chain[index]? = some heading →
        index + 1 ≤ heading.depth) ∧
      p.chain.getLast? = headings.getLast? ∧
      p.depth = (headings.getLast?.map (·.depth)).getD 0 ∧
      p.chain.length ≤ p.depth ∧
      (openHeadings headings).Sublist p.chain ∧
      (openHeadings headings).getLast? = p.chain.getLast? ∧
      (∀ (c : Criteria) (innermost : Heading) (kind : Filter),
        kind = .tags ∨ kind = .properties →
          c.meets (openHeadings headings) innermost kind → c.meets p.chain innermost kind) ∧
      ((∀ h ∈ headings.head?, h.depth = 1) →
        headings.IsChain (fun before h => h.depth ≤ before.depth + 1) →
          p.chain = openHeadings headings) := by
  have layered := s.layered_positionAfter positive
  have sublist := s.openHeadings_sublist_chain positive
  refine ⟨s.positionAfter headings, s.foldlM_enter? positive, ?_, s.getLast?_chain positive,
    s.depth_positionAfter positive, layered.length_le_depth, sublist, ?_, ?_, ?_⟩
  · intro index heading found
    exact layered.deep index heading found
  · rw [getLast?_openHeadings, s.getLast?_chain positive]
  · intro c innermost kind inherited met
    exact c.meets_of_subset sublist.subset inherited met
  · intro first steps
    have gapless := s.gapless_positionAfter positive first steps
    exact (s.chain_eq_openHeadings_iff_pairwise positive).mpr gapless.increasing

theorem positionAfter_covers_openHeadings_without_gap :
    let s : Searcher Binary64 := { query := .empty, scorer := fun _ _ => none }
    let headings := ["* one", "** two", "*** three", "** four"].filterMap
      (fun line => Heading.ofLine? .org 1 line.toList)
    (∀ h ∈ headings, 1 ≤ h.depth) ∧ (∀ h ∈ headings.head?, h.depth = 1) ∧
      headings.IsChain (fun before h => h.depth ≤ before.depth + 1) ∧
      ∃ p : Position, headings.foldlM (fun p h => s.enter? h p) .start = some p ∧
        p.chain.length ≤ p.depth ∧ p.chain = openHeadings headings := by
  intro s headings
  have positive : ∀ h ∈ headings, 1 ≤ h.depth := by decide +kernel
  have first : ∀ h ∈ headings.head?, h.depth = 1 := by decide +kernel
  have steps : headings.IsChain (fun before h => h.depth ≤ before.depth + 1) := by
    decide +kernel
  obtain ⟨p, reached, -, -, -, short, -, -, -, exactChain⟩ :=
    s.positionAfter_covers_openHeadings headings positive
  exact ⟨positive, first, steps, p, reached, short, exactChain first steps⟩

end Searcher

end OutlineSearch
