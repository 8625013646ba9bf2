import OutlineSearch.Proofs.Yaml.Quoted

/-!
# Runs of a text

A text is written run by run: words, spaces and line feeds.  Where spaces and line feeds do not
touch, every second run is a word, and so is every run beside a line that is broken.
-/

namespace OutlineSearch.Yaml

/-- A run of characters that are neither spaces nor line feeds. -/
structure IsWord (run : Text) : Prop where
  nonempty : run ≠ []
  solid : ∀ c ∈ run, c ≠ ' ' ∧ c ≠ '\n'

/-- The three kinds of runs. -/
inductive IsRun : Text → Prop where
  | spaces (more : Nat) : IsRun (List.replicate (more + 1) ' ')
  | feeds (more : Nat) : IsRun (List.replicate (more + 1) '\n')
  | word {run : Text} : IsWord run → IsRun run

/-- One of two runs is a word, and the other one is not. -/
def Alternate (first second : Text) : Prop := IsWord first ↔ ¬IsWord second

theorem Alternate.word {first second : Text} (alternate : Alternate first second)
    (notWord : ¬IsWord first) : IsWord second :=
  of_not_not fun notToo => notWord (alternate.mpr notToo)

theorem IsWord.startsSolid {run : Text} (word : IsWord run) (rest : Text) :
    StartsSolid (run ++ rest) := by
  obtain ⟨c, more, rfl⟩ := List.exists_cons_of_ne_nil word.nonempty
  have first := word.solid c List.mem_cons_self
  exact ⟨by simpa using first.1, by simpa using first.2⟩

theorem IsWord.singleton {c : Char} (notSpace : c ≠ ' ') (notFeed : c ≠ '\n') : IsWord [c] :=
  ⟨List.cons_ne_nil c [], by simp [notSpace, notFeed]⟩

theorem IsWord.cons {c : Char} {run : Text} (notSpace : c ≠ ' ') (notFeed : c ≠ '\n')
    (word : IsWord run) : IsWord (c :: run) := by
  refine ⟨List.cons_ne_nil c run, ?_⟩
  rw [List.forall_mem_cons]
  exact ⟨⟨notSpace, notFeed⟩, word.solid⟩

theorem not_isWord_spaces (more : Nat) : ¬IsWord (List.replicate (more + 1) ' ') :=
  fun word => (word.solid ' ' (by simp)).1 rfl

theorem not_isWord_feeds (more : Nat) : ¬IsWord (List.replicate (more + 1) '\n') :=
  fun word => (word.solid '\n' (by simp)).2 rfl

theorem isRun_singleton (c : Char) : IsRun [c] := by
  by_cases space : c = ' '
  · rw [space]
    exact .spaces 0
  · by_cases feed : c = '\n'
    · rw [feed]
      exact .feeds 0
    · exact .word (.singleton space feed)

theorem IsRun.word_of_first {c : Char} {run : Text} (isRun : IsRun (c :: run)) (notSpace : c ≠ ' ')
    (notFeed : c ≠ '\n') : IsWord (c :: run) := by
  generalize shape : c :: run = whole at isRun
  cases isRun with
  | spaces more => exact absurd (List.cons.inj shape).1 notSpace
  | feeds more => exact absurd (List.cons.inj shape).1 notFeed
  | word word => exact word

theorem IsRun.exists_spaces {run : Text} (isRun : IsRun run) (notWord : ¬IsWord run)
    (noFeed : '\n' ∉ run) : ∃ more, run = List.replicate (more + 1) ' ' := by
  cases isRun with
  | spaces more => exact ⟨more, rfl⟩
  | feeds more => exact absurd List.mem_cons_self noFeed
  | word word => exact absurd word notWord

/-! ## Cutting a text into runs -/

/-- Puts a character in front of runs. -/
def consRun (c : Char) (runs : List Text) : List Text :=
  match runs with
  | (d :: run) :: runs =>
    if runClass c = runClass d then (c :: d :: run) :: runs else [c] :: (d :: run) :: runs
  | runs => [c] :: runs

theorem runsOf_cons (c : Char) (rest : Text) : runsOf (c :: rest) = consRun c (runsOf rest) := rfl

theorem flatten_consRun (c : Char) (runs : List Text) :
    (consRun c runs).flatten = c :: runs.flatten := by
  unfold consRun
  split
  · split <;> rfl
  · rfl

theorem flatten_runsOf (t : Text) : (runsOf t).flatten = t := by
  induction t with
  | nil => rfl
  | cons c rest induction => rw [runsOf_cons, flatten_consRun, induction]

theorem runClass_eq_iff (c d : Char) : runClass c = runClass d ↔
    (c = ' ' ↔ d = ' ') ∧ (c = '\n' ↔ d = '\n') := by
  unfold runClass
  by_cases space : c = ' ' <;> by_cases spaceToo : d = ' ' <;> by_cases feed : c = '\n' <;>
    by_cases feedToo : d = '\n' <;> simp_all

/-- A character that joins a run makes a longer run of the same kind. -/
theorem IsRun.cons {c d : Char} {run : Text} (isRun : IsRun (d :: run))
    (same : runClass c = runClass d) :
    IsRun (c :: d :: run) ∧ (IsWord (c :: d :: run) ↔ IsWord (d :: run)) := by
  rw [runClass_eq_iff] at same
  generalize shape : d :: run = whole at isRun
  cases isRun with
  | spaces more =>
      obtain rfl : d = ' ' := by simpa [List.replicate_succ] using (congrArg List.head? shape)
      rw [same.1.mpr rfl]
      exact ⟨.spaces (more + 1), ⟨fun word => (not_isWord_spaces (more + 1) word).elim,
        fun word => (not_isWord_spaces more word).elim⟩⟩
  | feeds more =>
      obtain rfl : d = '\n' := by simpa [List.replicate_succ] using (congrArg List.head? shape)
      rw [same.2.mpr rfl]
      exact ⟨.feeds (more + 1), ⟨fun word => (not_isWord_feeds (more + 1) word).elim,
        fun word => (not_isWord_feeds more word).elim⟩⟩
  | word word =>
      have first := word.solid d (by rw [← shape]; exact List.mem_cons_self)
      have longer : IsWord (c :: whole) :=
        word.cons (fun space => first.1 (same.1.mp space)) (fun feed => first.2 (same.2.mp feed))
      exact ⟨.word longer, fun _ => word, fun _ => longer⟩

theorem isRun_of_mem_runsOf {t run : Text} (member : run ∈ runsOf t) : IsRun run := by
  induction t generalizing run with
  | nil => cases member
  | cons c rest induction =>
      rw [runsOf_cons] at member
      unfold consRun at member
      split at member
      · rename_i d run runs shape
        have first : IsRun (d :: run) := induction (by rw [shape]; exact List.mem_cons_self)
        split at member
        · rename_i same
          rcases List.mem_cons.mp member with rfl | later
          · exact (first.cons same).1
          · exact induction (by rw [shape]; exact List.mem_cons_of_mem _ later)
        · rcases List.mem_cons.mp member with rfl | later
          · exact isRun_singleton c
          · exact induction (by rw [shape]; exact later)
      · rcases List.mem_cons.mp member with rfl | later
        · exact isRun_singleton c
        · exact induction later

theorem exists_runsOf_cons (c : Char) (rest : Text) :
    ∃ run runs, runsOf (c :: rest) = (c :: run) :: runs := by
  rw [runsOf_cons]
  unfold consRun
  split
  · split
    · exact ⟨_, _, rfl⟩
    · exact ⟨_, _, rfl⟩
  · exact ⟨_, _, rfl⟩

/-- Two runs that are no words are spaces beside line feeds. -/
theorem alternate_of_runClass_ne {c d : Char} {run : Text} (isRun : IsRun (d :: run))
    (different : runClass c ≠ runClass d) (noSpaceFeed : ¬(c = ' ' ∧ d = '\n'))
    (noFeedSpace : ¬(c = '\n' ∧ d = ' ')) : Alternate [c] (d :: run) := by
  rw [Ne, runClass_eq_iff] at different
  generalize whole : d :: run = first at isRun
  cases isRun with
  | spaces more =>
      obtain rfl : d = ' ' := by
        simpa [List.replicate_succ] using congrArg List.head? whole
      have isWord : IsWord [c] := by
        refine .singleton ?_ ?_
        · rintro rfl
          exact different (by simp)
        · rintro rfl
          exact noFeedSpace ⟨rfl, rfl⟩
      exact ⟨fun _ => not_isWord_spaces more, fun _ => isWord⟩
  | feeds more =>
      obtain rfl : d = '\n' := by
        simpa [List.replicate_succ] using congrArg List.head? whole
      have isWord : IsWord [c] := by
        refine .singleton ?_ ?_
        · rintro rfl
          exact noSpaceFeed ⟨rfl, rfl⟩
        · rintro rfl
          exact different (by simp)
      exact ⟨fun _ => not_isWord_feeds more, fun _ => isWord⟩
  | word word =>
      have first := word.solid d (by rw [← whole]; exact List.mem_cons_self)
      refine ⟨fun isWord => ?_, fun notWord => absurd word notWord⟩
      have solid := isWord.solid c List.mem_cons_self
      exact (different (by simp [first, solid])).elim

/-- The runs of a text in which no space stands beside a line feed. -/
theorem isChain_runsOf {t : Text} (noSpaceFeed : Text.hasInfix [' ', '\n'] t = false)
    (noFeedSpace : Text.hasInfix ['\n', ' '] t = false) :
    List.IsChain Alternate (runsOf t) := by
  induction t with
  | nil => exact .nil
  | cons c rest induction =>
      rw [Text.hasInfix, Bool.or_eq_false_iff] at noSpaceFeed noFeedSpace
      have chain := induction noSpaceFeed.2 noFeedSpace.2
      rw [runsOf_cons]
      cases rest with
      | nil => exact .singleton [c]
      | cons d rest =>
          obtain ⟨run, runs, shape⟩ := exists_runsOf_cons d rest
          have isRun : IsRun (d :: run) :=
            isRun_of_mem_runsOf (t := d :: rest) (by rw [shape]; exact List.mem_cons_self)
          rw [shape] at chain ⊢
          unfold consRun
          dsimp only
          split
          · rename_i same
            rw [List.isChain_cons] at chain ⊢
            refine ⟨fun next isNext => ?_, chain.2⟩
            exact (isRun.cons same).2.trans (chain.1 next isNext)
          · rename_i different
            refine .cons_cons (alternate_of_runClass_ne isRun different ?_ ?_) chain
            · rintro ⟨rfl, rfl⟩
              simp at noSpaceFeed
            · rintro ⟨rfl, rfl⟩
              simp at noFeedSpace

/-! ## Writing runs -/

section Writing

variable (mayBreak isFirst : Bool) (indent : Nat) (rest : List Text) (w : Written)

theorem writeRuns_feeds (more : Nat) :
    writeRuns mayBreak indent isFirst (List.replicate (more + 1) '\n' :: rest) w =
      writeRuns mayBreak indent false rest
        ⟨w.text ++ '\n' :: (List.replicate (more + 1) '\n' ++ List.replicate indent ' '),
          indent⟩ := by
  have shift : List.replicate (more + 1) '\n' ++ '\n' :: List.replicate indent ' ' =
      '\n' :: (List.replicate (more + 1) '\n' ++ List.replicate indent ' ') := by
    rw [List.append_cons, ← List.replicate_succ', List.replicate_succ, List.cons_append]
  rw [writeRuns, ← shift, ← List.append_assoc]
  rfl

theorem writeRuns_word {run : Text} (word : IsWord run) :
    writeRuns mayBreak indent isFirst (run :: rest) w =
      writeRuns mayBreak indent false rest (w.add run) := by
  obtain ⟨c, more, rfl⟩ := List.exists_cons_of_ne_nil word.nonempty
  have first := word.solid c List.mem_cons_self
  have notFeed : ((c :: more).head? == some '\n') = false := by simp [first.2]
  have notSpace : ¬(c :: more) = [' '] := by simp [first.1]
  rw [writeRuns, notFeed, if_neg Bool.false_ne_true]
  simp only [notSpace, decide_false, Bool.false_and, if_neg Bool.false_ne_true]

/-- A single space that is neither the first nor the last run may become the end of a line. -/
theorem writeRuns_spaces (more : Nat) :
    writeRuns mayBreak indent isFirst (List.replicate (more + 1) ' ' :: rest) w =
        writeRuns mayBreak indent false rest (w.add (List.replicate (more + 1) ' ')) ∨
      more = 0 ∧ isFirst = false ∧ rest ≠ [] ∧
      writeRuns mayBreak indent isFirst (List.replicate (more + 1) ' ' :: rest) w =
        writeRuns mayBreak indent false rest (w.breakLine indent) := by
  have notFeed : ((List.replicate (more + 1) ' ').head? == some '\n') = false := rfl
  rw [writeRuns, notFeed, if_neg Bool.false_ne_true]
  split
  · rename_i breaks
    simp only [Bool.and_eq_true, decide_eq_true_eq, Bool.not_eq_true', List.isEmpty_eq_false_iff]
      at breaks
    obtain ⟨⟨⟨⟨single, -⟩, -⟩, notFirst⟩, someRest⟩ := breaks
    have length := congrArg List.length single
    rw [List.length_replicate, List.length_singleton] at length
    exact .inr ⟨by omega, notFirst, someRest, rfl⟩
  · exact .inl rfl

end Writing

end OutlineSearch.Yaml
