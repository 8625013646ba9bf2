import Mathlib.Data.List.Sort
import OutlineSearch.Proofs.Number
import OutlineSearch.Proofs.Pool
import OutlineSearch.Search.Run

/-!
# Reports do not depend on the order of the work

However the workers of a pool get on with the documents, all outcomes arrive.  The report on
them lists the hits of all documents that could be read, by descending score and otherwise in
the order of the documents, and one message for each of the others.
-/

namespace OutlineSearch

namespace Report

/-! ## Sorting by score -/

/-- The hits in the order of their scores, the highest first; hits with the same score keep
their order. -/
structure StablySorted (hits sorted : List (Hit Binary64)) : Prop where
  complete : sorted.Perm hits
  descending : sorted.Pairwise fun a b => Binary64.lt a.score b.score = false
  stable : ∀ score, (sorted.filter fun h => Binary64.eq h.score score) =
    hits.filter fun h => Binary64.eq h.score score

/-- No score is negative, nor something that does not compare. -/
def AllScored (hits : List (Hit Binary64)) : Prop := ∀ h ∈ hits, Binary64.le .zero h.score = true

/-- Whether a hit may stand in front of another one.  Where scores are numbers this is "not
less"; it is total and transitive on all scores, as sorting asks for. -/
def mayPrecede (a b : Hit Binary64) : Bool := !Binary64.lt a.score.orLeast b.score.orLeast

theorem mayPrecede_trans (a b c : Hit Binary64) (first : mayPrecede a b = true)
    (second : mayPrecede b c = true) : mayPrecede a c = true := by
  rw [mayPrecede, Bool.not_eq_true'] at *
  exact Binary64.not_lt_trans b.score.orLeast_ne_nan first second

theorem mayPrecede_total (a b : Hit Binary64) : (mayPrecede a b || mayPrecede b a) = true := by
  simpa [mayPrecede] using Binary64.not_lt_or_not_lt a.score.orLeast b.score.orLeast

section Sorting

variable {hits : List (Hit Binary64)} (scored : AllScored hits)
include scored

theorem AllScored.ne_nan {h : Hit Binary64} (member : h ∈ hits) : h.score ≠ .nan :=
  Binary64.ne_nan_of_nonnegative (scored h member)

theorem AllScored.mayPrecede_iff {a b : Hit Binary64} (member : a ∈ hits) (memberToo : b ∈ hits) :
    mayPrecede a b = true ↔ Binary64.lt a.score b.score = false := by
  rw [mayPrecede, Bool.not_eq_true', Binary64.orLeast_eq (scored.ne_nan member),
    Binary64.orLeast_eq (scored.ne_nan memberToo)]

theorem AllScored.eq_iff {a b : Hit Binary64} (member : a ∈ hits) (memberToo : b ∈ hits) :
    Binary64.eq a.score b.score = true ↔ mayPrecede a b = true ∧ mayPrecede b a = true := by
  rw [scored.mayPrecede_iff member memberToo, scored.mayPrecede_iff memberToo member,
    Binary64.eq_iff_not_lt (scored.ne_nan member) (scored.ne_nan memberToo)]

theorem sortHits_eq_mergeSort : sortHits true hits = hits.mergeSort mayPrecede := by
  have agree : ∀ a ∈ hits, ∀ b ∈ hits,
      (!Binary64.lt a.score b.score) = mayPrecede (id a) (id b) := by
    intro a member b memberToo
    rw [Bool.eq_iff_iff, Bool.not_eq_true', id, id, scored.mayPrecede_iff member memberToo]
  simpa [sortHits] using List.map_mergeSort agree

/-- The hits with one score are in order already, so sorting leaves them as they are. -/
theorem filter_sortHits (score : Binary64) :
    ((sortHits true hits).filter fun h => Binary64.eq h.score score) =
      hits.filter fun h => Binary64.eq h.score score := by
  have inOrder : (hits.filter fun h => Binary64.eq h.score score).Pairwise fun a b =>
      mayPrecede a b = true := by
    refine List.pairwise_of_forall_mem_list fun a first b second => ?_
    obtain ⟨member, isScore⟩ := List.mem_filter.mp first
    obtain ⟨memberToo, isScoreToo⟩ := List.mem_filter.mp second
    have number := Binary64.ne_nan_of_eq isScore
    rw [Binary64.eq_iff_not_lt (scored.ne_nan member) number] at isScore
    rw [Binary64.eq_iff_not_lt (scored.ne_nan memberToo) number] at isScoreToo
    rw [scored.mayPrecede_iff member memberToo]
    exact Binary64.not_lt_trans number isScore.1 isScoreToo.2
  have kept := List.sublist_mergeSort mayPrecede_trans mayPrecede_total inOrder
    List.filter_sublist
  rw [← sortHits_eq_mergeSort scored] at kept
  have sublist := kept.filter fun h => Binary64.eq h.score score
  rw [List.filter_filter] at sublist
  simp only [Bool.and_self] at sublist
  have complete : (sortHits true hits).Perm hits := List.mergeSort_perm _ _
  exact (sublist.eq_of_length (complete.filter _).length_eq.symm).symm

theorem stablySorted_sortHits : StablySorted hits (sortHits true hits) := by
  have complete : (sortHits true hits).Perm hits := List.mergeSort_perm _ _
  have ordered := List.pairwise_mergeSort mayPrecede_trans mayPrecede_total hits
  rw [← sortHits_eq_mergeSort scored] at ordered
  refine ⟨complete, ordered.imp_of_mem fun member memberToo precedes => ?_,
    filter_sortHits scored⟩
  exact (scored.mayPrecede_iff (complete.subset member) (complete.subset memberToo)).mp precedes

end Sorting

theorem mayPrecede_of_mem {a b : Hit Binary64} {rest : List (Hit Binary64)}
    (descending : (a :: rest).Pairwise fun a b => mayPrecede a b = true) (member : b ∈ a :: rest) :
    mayPrecede a b = true := by
  rcases List.mem_cons.mp member with rfl | inRest
  · simpa using mayPrecede_total b b
  · exact List.rel_of_pairwise_cons descending inRest

theorem eq_of_perm_of_descending {first second : List (Hit Binary64)} (scored : AllScored first)
    (complete : first.Perm second)
    (descending : first.Pairwise fun a b => mayPrecede a b = true)
    (descendingToo : second.Pairwise fun a b => mayPrecede a b = true)
    (stable : ∀ score, (first.filter fun h => Binary64.eq h.score score) =
      second.filter fun h => Binary64.eq h.score score) : first = second := by
  induction first generalizing second with
  | nil => exact complete.symm.eq_nil.symm
  | cons h first induction =>
      cases second with
      | nil => cases complete.eq_nil
      | cons k second =>
          -- Both lists begin with a hit of the highest score, and among those of this score the
          -- first one is the same.
          have inFirst : k ∈ h :: first := complete.mem_iff.mpr List.mem_cons_self
          have inSecond : h ∈ k :: second := complete.mem_iff.mp List.mem_cons_self
          have head : h ∈ h :: first := List.mem_cons_self
          have ofFirst : Binary64.eq h.score h.score = true :=
            (scored.eq_iff head head).mpr
              ⟨mayPrecede_of_mem descending head, mayPrecede_of_mem descending head⟩
          have ofSecond : Binary64.eq k.score h.score = true :=
            (scored.eq_iff inFirst head).mpr
              ⟨mayPrecede_of_mem descendingToo inSecond, mayPrecede_of_mem descending inFirst⟩
          have atScore := stable h.score
          simp only [List.filter_cons, ofFirst, ofSecond, if_true] at atScore
          obtain ⟨rfl, -⟩ := List.cons.inj atScore
          have rest : ∀ score, (first.filter fun h => Binary64.eq h.score score) =
              second.filter fun h => Binary64.eq h.score score := by
            intro score
            have whole := stable score
            rw [List.filter_cons, List.filter_cons] at whole
            split at whole
            · exact (List.cons.inj whole).2
            · exact whole
          rw [induction (fun other member => scored other (List.mem_cons_of_mem h member))
            complete.cons_inv descending.of_cons descendingToo.of_cons rest]

/-- There is one stable order by score only. -/
theorem StablySorted.unique {hits first second : List (Hit Binary64)} (scored : AllScored hits)
    (sorted : StablySorted hits first) (sortedToo : StablySorted hits second) :
    first = second := by
  have ordered : ∀ {list : List (Hit Binary64)}, StablySorted hits list →
      AllScored list ∧ list.Pairwise fun a b => mayPrecede a b = true := by
    intro list sorted
    have listScored : AllScored list := fun h member => scored h (sorted.complete.subset member)
    refine ⟨listScored, sorted.descending.imp_of_mem fun member memberToo notBelow => ?_⟩
    exact (listScored.mayPrecede_iff member memberToo).mpr notBelow
  refine eq_of_perm_of_descending (ordered sorted).1
    (sorted.complete.trans sortedToo.complete.symm) (ordered sorted).2 (ordered sortedToo).2
    fun score => ?_
  rw [sorted.stable, sortedToo.stable]

/-! ## What has arrived -/

/-- The hits of the documents that could be read, in the order of the documents. -/
def found (outcomes : List Outcome) : List (Hit Binary64) :=
  outcomes.flatMap fun outcome => outcome.toOption.getD []

/-- The message about a document that could not be read. -/
def complaint? : Outcome → Option Text
  | .ok _ => none
  | .error message => some message

/-- What is known once the outcomes at these positions have arrived. -/
def Gathering.after (outcomes : List Outcome) (arrived : List Nat) : Gathering :=
  ⟨outcomes.mapIdx fun index outcome => if index ∈ arrived then outcome.toOption else none,
    arrived.filterMap fun index => outcomes[index]?.bind complaint?⟩

theorem Gathering.receive_after (outcomes : List Outcome) (arrived : List Nat) (index : Nat) :
    (after outcomes arrived).receive outcomes index = after outcomes (arrived ++ [index]) := by
  cases outcome : outcomes[index]? with
  | none =>
      have beyond : outcomes.length ≤ index := List.getElem?_eq_none_iff.mp outcome
      simp only [receive, outcome, after, mk.injEq]
      -- No document has this number, so no slot is concerned.
      refine ⟨List.mapIdx_eq_mapIdx_iff.mpr fun i inside => ?_, by simp [outcome]⟩
      have other : i ≠ index := by omega
      simp [other]
  | some arrival =>
      obtain ⟨inside, isOutcome⟩ := List.getElem?_eq_some_iff.mp outcome
      cases arrival with
      | ok hits =>
          simp only [receive, outcome, after, mk.injEq]
          refine ⟨List.ext_getElem (by simp) fun i _ _ => ?_, by simp [outcome, complaint?]⟩
          by_cases same : index = i
          · subst same
            simp [isOutcome, Except.toOption]
          · simp [same, Ne.symm same]
      | error message =>
          simp only [receive, outcome, after, mk.injEq]
          refine ⟨List.mapIdx_eq_mapIdx_iff.mpr fun i _ => ?_, by simp [outcome, complaint?]⟩
          by_cases same : i = index
          · subst same
            simp [isOutcome, Except.toOption]
          · simp [same]

theorem Gathering.foldl_receive (outcomes : List Outcome) (arrivals : List Nat) :
    arrivals.foldl (receive outcomes) ⟨outcomes.map fun _ => none, []⟩ =
      after outcomes arrivals := by
  have behind : ∀ arrived, arrivals.foldl (receive outcomes) (after outcomes arrived) =
      after outcomes (arrived ++ arrivals) := by
    induction arrivals with
    | nil => simp
    | cons index arrivals induction =>
        intro arrived
        rw [List.foldl_cons, receive_after, induction, List.append_assoc, List.singleton_append]
  have nothing : after outcomes [] = ⟨outcomes.map fun _ => none, []⟩ := by
    simp [after, List.mapIdx_eq_zipIdx_map]
  simpa [nothing] using behind []

theorem filterMap_range_length {α β : Type} (list : List α) (f : α → Option β) :
    (List.range list.length).filterMap (fun index => list[index]?.bind f) = list.filterMap f := by
  induction list with
  | nil => rfl
  | cons a list induction =>
      rw [List.length_cons, List.range_succ_eq_map, List.filterMap_cons, List.filterMap_map]
      simp [List.filterMap_cons, induction]

/-- What a report on documents with these outcomes has to say. -/
structure Summarizes (r : Report) (outcomes : List Outcome) : Prop where
  /-- Its hits are those of all documents that could be read, in their one stable order. -/
  hits : ∀ sorted, StablySorted (found outcomes) sorted ↔ sorted = r.hits
  /-- It has one message for each document that could not be read. -/
  errors : r.errors.Perm (outcomes.filterMap complaint?)
  scanned : r.scanned = outcomes.length

/-- However the outcomes arrive, the report on them is the same but for the order of its
messages. -/
theorem summarizes_gather {outcomes : List Outcome} (scored : AllScored (found outcomes))
    (query : Text) {arrivals : List Nat}
    (complete : arrivals.Perm (List.range outcomes.length)) :
    (gather query outcomes arrivals).Summarizes outcomes := by
  have slots : (Gathering.after outcomes arrivals).slots = outcomes.map Except.toOption := by
    refine List.ext_getElem (by simp [Gathering.after]) fun i inside _ => ?_
    have arrived : i ∈ arrivals := by
      rw [complete.mem_iff, List.mem_range]
      simpa [Gathering.after] using inside
    simp [Gathering.after, arrived]
  have hits : (gather query outcomes arrivals).hits = sortHits true (found outcomes) := by
    simp only [gather, Gathering.foldl_receive, slots, List.map_map, found]
    rfl
  refine ⟨fun sorted => ⟨fun stable => ?_, ?_⟩, ?_, rfl⟩
  · rw [hits]
    exact stable.unique scored (stablySorted_sortHits scored)
  · rintro rfl
    rw [hits]
    exact stablySorted_sortHits scored
  · rw [← filterMap_range_length]
    simp only [gather, Gathering.foldl_receive]
    exact complete.filterMap _

/-- However a pool of workers gets on with the documents, it comes to an end, and the report that is
made then is the same but for the order of its messages. -/
theorem summarizes_gather_collected {workers : Nat} (positive : 0 < workers) (query : Text)
    {outcomes : List Outcome} (scored : AllScored (found outcomes)) :
    Pool.Ends workers (fun last => (gather query outcomes last.collected).Summarizes outcomes)
      (Pool.submitted outcomes.length) := by
  have tasks : (Pool.submitted outcomes.length).tasks = List.range outcomes.length := by
    simp [Pool.submitted, Pool.tasks]
  refine (Pool.ends_collected positive (Pool.submitted outcomes.length)).imp fun last complete => ?_
  rw [tasks] at complete
  exact summarizes_gather scored query complete

/-- Two documents with a hit of the same score, and one between them that cannot be read. -/
def twoOfThree : List Outcome :=
  [.ok [⟨.ofNat 1, 3, "a.org".toList, [], "plan".toList, false⟩],
    .error "Cannot read b.org: Permission denied".toList,
    .ok [⟨.ofNat 1, 1, "c.org".toList, ["plan".toList], "* plan".toList, true⟩]]

theorem summarizes_gather_twoOfThree : 0 < 2 ∧ AllScored (found twoOfThree) ∧
    Pool.Ends 2 (fun last => (gather "plan".toList twoOfThree last.collected).Summarizes twoOfThree)
      (Pool.submitted twoOfThree.length) := by
  have positive : 0 < 2 := by decide
  have scored : AllScored (found twoOfThree) := by
    unfold AllScored
    decide +kernel
  exact ⟨positive, scored, summarizes_gather_collected positive "plan".toList scored⟩

end Report

/-- The report of a run is one of these. -/
theorem Run.summarizes_report {r : Run} {documents : List Document} {outcomes : List Outcome}
    (searched : r.outcomes documents = .ok outcomes)
    (scored : Report.AllScored (Report.found outcomes)) :
    ∃ report, r.report documents = .ok report ∧ report.Summarizes outcomes := by
  refine ⟨Report.gather r.query.full outcomes (List.range outcomes.length), ?_, ?_⟩
  · simp only [Run.report, searched]
    rfl
  · exact Report.summarizes_gather scored r.query.full (.refl _)

end OutlineSearch
