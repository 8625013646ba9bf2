import Mathlib.Algebra.Order.BigOperators.Group.List
import OutlineSearch.Command.Request
import OutlineSearch.Proofs.LowerCase
import OutlineSearch.Proofs.Records
import OutlineSearch.Proofs.Timestamp.Reading

/-!
# Checking settings twice

What a check has let pass is written as data again and checked once more.  Every field stands
this but the extensions: blanks are trimmed before the points in front are dropped, so that what
is kept of an extension may begin with a blank, or be empty.  An extension of the first kind is
trimmed once more, one of the second is refused.
-/

namespace OutlineSearch

/-! ## Checks that have passed -/

namespace Checked

variable {α β : Type}

theorem map_eq_passed {f : α → β} {x : Checked α} {b : β} (passing : f <$> x = passed b) :
    ∃ a, x = passed a ∧ f a = b := by
  cases x with
  | passed a => exact ⟨a, rfl, passed.inj passing⟩
  | failed problems => cases passing

theorem seq_eq_passed {f : Checked (α → β)} {x : Checked α} {b : β}
    (passing : f <*> x = passed b) : ∃ g a, f = passed g ∧ x = passed a ∧ g a = b := by
  cases f with
  | passed g =>
      cases x with
      | passed a => exact ⟨g, a, rfl, rfl, passed.inj passing⟩
      | failed problems => cases passing
  | failed problems => cases x <;> cases passing

theorem andThen_eq_passed {x : Checked α} {f : α → Checked β} {b : β}
    (passing : x.andThen f = passed b) : ∃ a, x = passed a ∧ f a = passed b := by
  cases x with
  | passed a => exact ⟨a, rfl, passing⟩
  | failed problems => cases passing

theorem inside_eq_passed {part : Text} {x : Checked α} {a : α}
    (passing : x.inside part = passed a) : x = passed a := by
  cases x with
  | passed b => exact passing
  | failed problems => cases passing

end Checked

namespace Field

variable {α : Type}

theorem onlyKnown_eq_passed {fields : List String} {entries : List (Data × Data)}
    {checked : Checked α} {a : α} (passing : onlyKnown fields entries checked = .passed a) :
    checked = .passed a := by
  unfold onlyKnown at passing
  split at passing
  · exact passing
  · cases passing

theorem onlyKnown_of_isKnown {fields : List String} {entries : List (Data × Data)}
    (known : ∀ entry ∈ entries, isKnown fields entry = true) (checked : Checked α) :
    onlyKnown fields entries checked = checked := by
  have noStray : (entries.filter fun entry => !isKnown fields entry) = [] :=
    List.filter_eq_nil_iff.mpr fun entry member => by simp [known entry member]
  rw [onlyKnown, noStray, List.map_nil]

/-- What holds of the default and of all that the check lets pass holds of the field. -/
theorem of_withDefault {P : α → Prop} {entries : List (Data × Data)} {name : String}
    {default a : α} {check : Data → Checked α}
    (passing : withDefault entries name default check = .passed a) (ofDefault : P default)
    (ofChecked : ∀ d, check d = .passed a → P a) : P a := by
  unfold withDefault at passing
  split at passing
  · exact ofChecked _ (Checked.inside_eq_passed passing)
  · cases passing
    exact ofDefault

theorem record_eq_passed {name : String} {check : List (Data × Data) → Checked α} {d : Data}
    {a : α} (passing : record name check d = .passed a) : ∃ entries, check entries = .passed a := by
  cases d with
  | map entries => exact ⟨entries, passing⟩
  | _ => cases passing

theorem percentage_float {x : Binary64} (notAbove : Binary64.le x (Binary64.ofNat 100) = true)
    (notBelow : Binary64.le .zero x = true) : percentage (.float x) = .passed x := by
  simp [percentage, number, notAbove, notBelow]

theorem le_of_percentage {d : Data} {x : Binary64} (passing : percentage d = .passed x) :
    Binary64.le x (Binary64.ofNat 100) = true ∧ Binary64.le .zero x = true := by
  obtain ⟨y, -, bounded⟩ := Checked.andThen_eq_passed passing
  by_cases notAbove : Binary64.le y (Binary64.ofNat 100) = true
  · by_cases notBelow : Binary64.le .zero y = true
    · simp only [notAbove, notBelow, Bool.not_true, Bool.false_eq_true, if_false] at bounded
      cases bounded
      exact ⟨notAbove, notBelow⟩
    · simp only [notAbove, notBelow, Bool.not_true, Bool.not_false, Bool.false_eq_true, if_false,
        if_true] at bounded
      cases bounded
  · simp only [notAbove, Bool.not_false, if_true] at bounded
    cases bounded

theorem positive_int {n : Nat} (above : 0 < n) : positive (.int n) = .passed n := by
  simp [positive, integer, above]

theorem positive_of_passed {d : Data} {n : Nat} (passing : positive d = .passed n) : 0 < n := by
  obtain ⟨value, -, bounded⟩ := Checked.andThen_eq_passed passing
  split at bounded
  · cases bounded
    omega
  · cases bounded

end Field

/-! ## Sections without extensions -/

theorem Matching.bounds_of_check {d : Data} {m : Matching} (accepted : check d = .passed m) :
    Binary64.le m.cutoff (Binary64.ofNat 100) = true ∧ Binary64.le .zero m.cutoff = true := by
  obtain ⟨entries, passing⟩ := Field.record_eq_passed accepted
  obtain ⟨_, omitHeadings, firstTwo, -, rfl⟩ :=
    Checked.seq_eq_passed (Field.onlyKnown_eq_passed passing)
  obtain ⟨_, cutoff, first, cutoffPassing, rfl⟩ := Checked.seq_eq_passed firstTwo
  obtain ⟨searchFilename, -, rfl⟩ := Checked.map_eq_passed first
  exact Field.of_withDefault
    (P := fun x => Binary64.le x (Binary64.ofNat 100) = true ∧ Binary64.le .zero x = true)
    cutoffPassing (by decide +kernel) fun _ => Field.le_of_percentage

theorem Matching.check_toData {d : Data} {m : Matching} (accepted : check d = .passed m) :
    check m.toData = .passed m := by
  obtain ⟨notAbove, notBelow⟩ := bounds_of_check accepted
  simp [check, toData, Field.record, checkFields, Field.onlyKnown, fields, Field.isKnown,
    Data.sameKey_ofString, Field.withDefault, Field.bool, Field.percentage_float notAbove notBelow]

theorem Layout.check_toData (l : Layout) : check l.toData = .passed l := by
  obtain ⟨color, showHeadings, showLineNumbers, separator, nullSeparator, count⟩ := l
  have integer (n : Nat) : Field.integerFrom 0 (.int n) = .passed n :=
    Field.integerFrom_int (Nat.zero_le n)
  cases count <;>
    simp [check, toData, Field.record, checkFields, Field.onlyKnown, fields, Field.isKnown,
      Data.sameKey_ofString, Field.withDefault, Field.bool, Field.text, Field.optional, integer]

theorem Limits.check_toData {d : Data} {l : Limits} (accepted : check d = .passed l) :
    check l.toData = .passed l := by
  obtain ⟨entries, passing⟩ := Field.record_eq_passed accepted
  obtain ⟨_, maxBytes, first, maxBytesPassing, rfl⟩ :=
    Checked.seq_eq_passed (Field.onlyKnown_eq_passed passing)
  obtain ⟨workers, workersPassing, rfl⟩ := Checked.map_eq_passed first
  have someBytes := Field.of_withDefault (P := (0 < ·)) maxBytesPassing (by decide)
    fun _ => Field.positive_of_passed
  have someWorkers := Field.of_withDefault (P := (0 < ·)) workersPassing (by decide)
    fun _ => Field.positive_of_passed
  simp [check, toData, Field.record, checkFields, Field.onlyKnown, fields, Field.isKnown,
    Data.sameKey_ofString, Field.withDefault, Field.positive_int someBytes,
    Field.positive_int someWorkers]

theorem Severity.ofWord?_name (severity : Severity) :
    ofWord? severity.name.toList = some severity := by
  cases severity <;> decide +kernel

theorem Logging.check_toData (l : Logging) : check l.toData = .passed l := by
  have level : checkLevel (.ofString l.level.name) = .passed l.level := by
    simp [checkLevel, Data.ofString, Field.text, Severity.ofWord?_name]
  simp [check, toData, Field.record, checkFields, Field.onlyKnown, fields, Field.isKnown,
    Data.sameKey_ofString, Field.withDefault, Field.text, level]

/-! ## Extensions -/

theorem Heading.distinctAux_sublist (seen texts : List Text) :
    (distinctAux seen texts).Sublist texts := by
  induction texts generalizing seen with
  | nil => exact List.Sublist.refl _
  | cons t rest induction =>
      rw [distinctAux]
      split
      · exact (induction seen).cons t
      · exact (induction (t :: seen)).cons_cons t

theorem Heading.distinct_sublist (texts : List Text) : (distinct texts).Sublist texts :=
  distinctAux_sublist [] texts

namespace Discovery

/-- Whether an extension begins with a character that is not blank. -/
def beginsSolid : Text → Bool
  | [] => false
  | c :: _ => !Text.isBlank c

/-- What is kept of an extension: it is in lower case, begins without a point and ends without a
blank.  It may be empty or begin with a blank. -/
structure IsKept (extension : Text) : Prop where
  final : ∀ c ∈ extension, Text.lowerChar c = c
  start : extension.head? ≠ some '.'
  ending : ∀ c ∈ extension.getLast?, Text.isBlank c = false

theorem getLast?_trim (text : Text) : ∀ c ∈ text.trim.getLast?, Text.isBlank c = false := by
  intro c last
  rw [Text.trim, Text.trimRight_eq_rdropWhile] at last
  obtain ⟨nonempty, rfl⟩ := List.mem_getLast?_eq_getLast last
  simpa using List.rdropWhile_last_not Text.isBlank text.trimLeft nonempty

theorem isKept_normalExtension (written : Text) : IsKept (normalExtension written) := by
  refine ⟨fun c => Text.lowerChar_of_mem_lower, ?_, ?_⟩
  · intro point
    have front := Text.head?_lower_eq_point point
    have solid := List.head?_dropWhile_not (· == '.') written.trim
    rw [front] at solid
    simp at solid
  · apply Text.getLast?_lower
    intro c last
    obtain ⟨front, split⟩ := List.dropWhile_suffix (l := written.trim) (· == '.')
    apply getLast?_trim written c
    rw [← split, List.getLast?_append, last, Option.some_or]
    exact Option.mem_some_self c

section Kept

variable {extension : Text} (kept : IsKept extension)
include kept

theorem isAllBlank_of_isKept (nonempty : extension ≠ []) : extension.isAllBlank = false := by
  rw [Bool.eq_false_iff]
  intro allBlank
  have solid := kept.ending _ (List.getLast?_eq_some_getLast nonempty)
  rw [List.all_eq_true.mp allBlank _ (List.getLast_mem nonempty)] at solid
  cases solid

/-- An extension that is kept is not changed by lower case, so only blanks and points are
dropped from it. -/
theorem normalExtension_eq : normalExtension extension = extension.trim.dropWhile (· == '.') := by
  apply Text.lower_eq_self
  intro c member
  apply kept.final
  have inTrimmed := (List.dropWhile_sublist _).subset member
  rw [Text.trim, Text.trimRight_eq_rdropWhile] at inTrimmed
  exact (List.dropWhile_sublist _).subset ((List.rdropWhile_prefix _ _).subset inTrimmed)

theorem length_normalExtension_le : (normalExtension extension).length ≤ extension.length := by
  rw [normalExtension_eq kept]
  calc
    (extension.trim.dropWhile (· == '.')).length ≤ extension.trim.length :=
      (List.dropWhile_sublist _).length_le
    _ ≤ extension.trimLeft.length := Text.length_trimRight_le _
    _ ≤ extension.length := Text.length_trimLeft_le _

theorem normalExtension_of_beginsSolid (solid : beginsSolid extension = true) :
    normalExtension extension = extension := by
  cases extension with
  | nil => cases solid
  | cons c rest =>
      have notBlank : Text.isBlank c = false := by simpa [beginsSolid] using solid
      have notPoint : (c == '.') = false := by simpa using kept.start
      have trimmed : Text.trimRight (c :: rest) = c :: rest := by
        rw [Text.trimRight_eq_rdropWhile, List.rdropWhile_eq_self_iff]
        intro nonempty
        simp [kept.ending _ (List.getLast?_eq_some_getLast nonempty)]
      rw [normalExtension_eq kept, Text.trim, Text.trimLeft_cons_of_not_blank notBlank, trimmed,
        List.dropWhile_cons_of_neg (by simp [notPoint])]

theorem length_normalExtension_lt (nonempty : extension ≠ [])
    (blank : beginsSolid extension = false) :
    (normalExtension extension).length < extension.length := by
  cases extension with
  | nil => exact (nonempty rfl).elim
  | cons c rest =>
      have isBlank : Text.isBlank c = true := by simpa [beginsSolid] using blank
      rw [normalExtension_eq kept]
      calc
        ((Text.trim (c :: rest)).dropWhile (· == '.')).length ≤ (Text.trim (c :: rest)).length :=
          (List.dropWhile_sublist _).length_le
        _ ≤ (Text.trimLeft (c :: rest)).length := Text.length_trimRight_le _
        _ = (Text.trimLeft rest).length := by rw [Text.trimLeft_blank_cons isBlank]
        _ ≤ rest.length := Text.length_trimLeft_le _
        _ < (c :: rest).length := Nat.lt_succ_self _

end Kept

/-- A list of extensions as a check leaves it. -/
structure AreKept (extensions : List Text) : Prop where
  each : ∀ extension ∈ extensions, IsKept extension
  distinct : Heading.distinct extensions = extensions

theorem areKept_of_normal {extensions : List Text}
    (normal : ∀ extension ∈ extensions, normalExtension extension = extension)
    (distinct : Heading.distinct extensions = extensions) : AreKept extensions := by
  refine ⟨fun extension member => ?_, distinct⟩
  rw [← normal extension member]
  exact isKept_normalExtension extension

theorem areKept_of_checkEachExtension {whole : Data} {items : List Data} {extensions : List Text}
    (passing : checkEachExtension whole items = .passed extensions) :
    ∀ extension ∈ extensions, IsKept extension := by
  induction items generalizing extensions with
  | nil =>
      cases passing
      exact fun _ member => absurd member List.not_mem_nil
  | cons item rest induction =>
      obtain ⟨first, firstPassing, more⟩ := Checked.andThen_eq_passed passing
      obtain ⟨others, othersPassing, rfl⟩ := Checked.map_eq_passed more
      have keptFirst : IsKept first := by
        unfold checkExtension at firstPassing
        split at firstPassing
        · split at firstPassing
          · cases firstPassing
          · cases firstPassing
            exact isKept_normalExtension _
        · cases firstPassing
      exact List.forall_mem_cons.mpr ⟨keptFirst, induction othersPassing⟩

theorem areKept_of_checkExtensions {d : Data} {extensions : List Text}
    (passing : checkExtensions d = .passed extensions) : AreKept extensions := by
  obtain ⟨each, eachPassing, rfl⟩ := Checked.map_eq_passed passing
  refine ⟨fun extension member => ?_, Heading.distinct_distinct each⟩
  exact areKept_of_checkEachExtension eachPassing extension
    ((Heading.distinct_sublist each).subset member)

/-- Extensions are the same again only if each of them is: what changes becomes shorter, and a
list does not become longer. -/
theorem distinct_map_normalExtension_iff {extensions : List Text} (kept : AreKept extensions) :
    Heading.distinct (extensions.map normalExtension) = extensions ↔
      ∀ extension ∈ extensions, extension ≠ [] → beginsSolid extension = true := by
  constructor
  · intro same extension member nonempty
    by_contra notSolid
    have shorter := length_normalExtension_lt (kept.each extension member) nonempty
      (Bool.eq_false_iff.mpr notSolid)
    have lost : (extensions.map (List.length ∘ normalExtension)).sum
        < (extensions.map List.length).sum :=
      List.sum_lt_sum _ _ (fun e isMember => length_normalExtension_le (kept.each e isMember))
        ⟨extension, member, shorter⟩
    have notLonger := (Heading.distinct_sublist (extensions.map normalExtension)).map List.length
    rw [same, List.map_map] at notLonger
    exact absurd (notLonger.sum_le_sum fun _ _ => Nat.zero_le _) (Nat.not_le_of_lt lost)
  · intro solid
    have unchanged : ∀ extension ∈ extensions, normalExtension extension = id extension := by
      intro extension member
      by_cases nonempty : extension = []
      · rw [nonempty]
        rfl
      · exact normalExtension_of_beginsSolid (kept.each extension member)
          (solid extension member nonempty)
    rw [List.map_congr_left unchanged, List.map_id, kept.distinct]

theorem checkExtensions_texts {texts : List Text}
    (something : ∀ t ∈ texts, t.isAllBlank = false) :
    checkExtensions (.list (texts.map .text)) =
      .passed (Heading.distinct (texts.map normalExtension)) := by
  have each : ∀ whole, checkEachExtension whole (texts.map .text) =
      .passed (texts.map normalExtension) := by
    intro whole
    induction texts with
    | nil => rfl
    | cons t rest induction =>
        rw [List.forall_mem_cons] at something
        rw [List.map_cons, checkEachExtension, checkExtension, something.1,
          induction something.2]
        rfl
  rw [checkExtensions, each]
  rfl

theorem checkExtensions_blank {texts : List Text} {blank : Text} (member : blank ∈ texts)
    (isBlank : blank.isAllBlank = true) :
    ∃ problems, checkExtensions (.list (texts.map .text)) = .failed problems := by
  have each : ∀ whole, ∃ problems,
      checkEachExtension whole (texts.map .text) = .failed problems := by
    intro whole
    induction texts with
    | nil => cases member
    | cons t rest induction =>
        rw [List.map_cons, checkEachExtension, checkExtension]
        by_cases here : t.isAllBlank = true
        · exact ⟨_, by rw [if_pos here]; rfl⟩
        · have later : blank ∈ rest := by
            rcases List.mem_cons.mp member with rfl | later
            · exact (here isBlank).elim
            · exact later
          obtain ⟨problems, refused⟩ := induction later
          exact ⟨problems, by rw [if_neg here, refused]; rfl⟩
  obtain ⟨problems, refused⟩ := each (.list (texts.map .text))
  exact ⟨problems, by rw [checkExtensions, refused]; rfl⟩

/-- Extensions are checked once more: one that is empty is refused, the others are made normal
again. -/
theorem checkExtensions_again {extensions : List Text} (kept : AreKept extensions) :
    (checkExtensions (.list (extensions.map .text)) = .passed extensions ↔
        ∀ extension ∈ extensions, beginsSolid extension = true) ∧
      ((∃ problems, checkExtensions (.list (extensions.map .text)) = .failed problems) ↔
        [] ∈ extensions) := by
  by_cases empty : [] ∈ extensions
  · obtain ⟨problems, refused⟩ := checkExtensions_blank empty rfl
    rw [refused]
    refine ⟨⟨nofun, fun solid => ?_⟩, fun _ => empty, fun _ => ⟨_, rfl⟩⟩
    cases solid [] empty
  · have nonempty : ∀ extension ∈ extensions, extension ≠ [] := by
      rintro extension member rfl
      exact empty member
    rw [checkExtensions_texts fun extension member =>
      isAllBlank_of_isKept (kept.each extension member) (nonempty extension member)]
    refine ⟨?_, nofun, fun member => (empty member).elim⟩
    rw [Checked.passed.injEq, distinct_map_normalExtension_iff kept]
    exact ⟨fun solid extension member => solid extension member (nonempty extension member),
      fun solid extension member _ => solid extension member⟩

/-- What a check leaves of the fields. -/
structure IsChecked (d : Discovery) : Prop where
  org : AreKept d.orgExtensions
  markdown : AreKept d.markdownExtensions

theorem isChecked_of_check {data : Data} {d : Discovery} (accepted : check data = .passed d) :
    IsChecked d := by
  obtain ⟨entries, passing⟩ := Field.record_eq_passed accepted
  obtain ⟨_, _, firstFive, -, rfl⟩ :=
    Checked.seq_eq_passed (Field.onlyKnown_eq_passed passing)
  obtain ⟨_, _, firstFour, -, rfl⟩ := Checked.seq_eq_passed firstFive
  obtain ⟨_, _, firstThree, -, rfl⟩ := Checked.seq_eq_passed firstFour
  obtain ⟨_, _, firstTwo, -, rfl⟩ := Checked.seq_eq_passed firstThree
  obtain ⟨_, markdown, first, markdownPassing, rfl⟩ := Checked.seq_eq_passed firstTwo
  obtain ⟨org, orgPassing, rfl⟩ := Checked.map_eq_passed first
  refine ⟨?_, ?_⟩
  · exact Field.of_withDefault orgPassing (areKept_of_normal (by decide +kernel) rfl)
      fun _ => areKept_of_checkExtensions
  · exact Field.of_withDefault markdownPassing (areKept_of_normal (by decide +kernel) rfl)
      fun _ => areKept_of_checkExtensions

theorem check_toData_eq (d : Discovery) :
    check d.toData =
      (fun org markdown => { d with orgExtensions := org, markdownExtensions := markdown })
        <$> (checkExtensions (.list (d.orgExtensions.map .text))).inside "org_extensions".toList
        <*> (checkExtensions (.list (d.markdownExtensions.map .text))).inside
          "md_extensions".toList := by
  rw [check, toData, Field.record, checkFields,
    Field.onlyKnown_of_isKnown (by simp [Field.isKnown, fields, Data.sameKey_ofString])]
  simp only [Field.withDefault, Data.lookup?_cons, String.reduceEq, reduceIte, Field.bool,
    Field.texts_texts, Checked.inside_passed]
  generalize (checkExtensions (.list (d.orgExtensions.map .text))).inside _ = org
  generalize (checkExtensions (.list (d.markdownExtensions.map .text))).inside _ = markdown
  cases org <;> cases markdown <;> rfl

/-- The extensions for either kind of document. -/
def extensions (d : Discovery) : List Text := d.orgExtensions ++ d.markdownExtensions

/-- The outcome of the second check. -/
theorem check_again {d : Discovery} (checked : IsChecked d) :
    (check d.toData = .passed d ↔ ∀ extension ∈ d.extensions, beginsSolid extension = true) ∧
      ((∃ problems, check d.toData = .failed problems) ↔ [] ∈ d.extensions) := by
  obtain ⟨orgSame, orgRefused⟩ := checkExtensions_again checked.org
  obtain ⟨markdownSame, markdownRefused⟩ := checkExtensions_again checked.markdown
  rw [check_toData_eq, extensions, List.forall_mem_append, List.mem_append, ← orgSame,
    ← orgRefused, ← markdownSame, ← markdownRefused]
  cases checkExtensions (.list (d.orgExtensions.map .text)) with
  | failed problems =>
      cases checkExtensions (.list (d.markdownExtensions.map .text)) <;>
        exact ⟨⟨nofun, nofun⟩, fun _ => .inl ⟨_, rfl⟩, fun _ => ⟨_, rfl⟩⟩
  | passed org =>
      cases checkExtensions (.list (d.markdownExtensions.map .text)) with
      | failed problems => exact ⟨⟨nofun, nofun⟩, fun _ => .inr ⟨_, rfl⟩, fun _ => ⟨_, rfl⟩⟩
      | passed markdown =>
          refine ⟨⟨fun same => ?_, fun ⟨sameOrg, sameMarkdown⟩ => ?_⟩, nofun, ?_⟩
          · have both := Checked.passed.inj same
            exact ⟨congrArg (fun again => Checked.passed again.orgExtensions) both,
              congrArg (fun again => Checked.passed again.markdownExtensions) both⟩
          · rw [Checked.passed.inj sameOrg, Checked.passed.inj sameMarkdown]
            rfl
          · rintro (⟨problems, refused⟩ | ⟨problems, refused⟩) <;> cases refused

end Discovery

/-! ## All settings -/

namespace Settings

open Discovery

/-- What a check leaves of the sections. -/
structure IsChecked (s : Settings) : Prop where
  discovery : s.discovery.IsChecked
  matching : Matching.check s.matching.toData = .passed s.matching
  limits : Limits.check s.limits.toData = .passed s.limits

theorem isChecked_of_check {data : Data} {s : Settings} (accepted : check data = .passed s) :
    IsChecked s := by
  obtain ⟨entries, passing⟩ := Field.record_eq_passed accepted
  obtain ⟨_, _, firstFour, -, rfl⟩ :=
    Checked.seq_eq_passed (Field.onlyKnown_eq_passed passing)
  obtain ⟨_, limits, firstThree, limitsPassing, rfl⟩ := Checked.seq_eq_passed firstFour
  obtain ⟨_, _, firstTwo, -, rfl⟩ := Checked.seq_eq_passed firstThree
  obtain ⟨_, matching, first, matchingPassing, rfl⟩ := Checked.seq_eq_passed firstTwo
  obtain ⟨discovery, discoveryPassing, rfl⟩ := Checked.map_eq_passed first
  have defaults : Discovery.check (.map []) = .passed {} := rfl
  refine ⟨?_, ?_, ?_⟩
  · exact Field.of_withDefault discoveryPassing
      (Discovery.isChecked_of_check defaults) fun _ => Discovery.isChecked_of_check
  · exact Field.of_withDefault (P := fun m => Matching.check m.toData = .passed m)
      matchingPassing (Matching.check_toData (d := .map []) rfl) fun _ => Matching.check_toData
  · exact Field.of_withDefault (P := fun l => Limits.check l.toData = .passed l)
      limitsPassing (Limits.check_toData (d := .map []) rfl) fun _ => Limits.check_toData

/-- Only the documents that are searched can come out of a second check in another way. -/
theorem check_toData_eq {s : Settings} (checked : IsChecked s) :
    check s.toData =
      (fun discovery => { s with discovery := discovery })
        <$> (Discovery.check s.discovery.toData).inside "discovery".toList := by
  rw [check, toData, Field.record, checkFields,
    Field.onlyKnown_of_isKnown (by simp [Field.isKnown, fields, Data.sameKey_ofString])]
  simp only [Field.withDefault, Data.lookup?_cons, String.reduceEq, reduceIte, checked.matching,
    checked.limits, Layout.check_toData, Logging.check_toData, Checked.inside_passed]
  cases Discovery.check s.discovery.toData <;> rfl

/-- Without options that change settings, the documents that are searched are checked again, and
the other settings are kept. -/
theorem settings_eq (query : Text) (s : Settings) :
    ({ query := query } : Command.Options).settings true s =
      ((fun discovery => { s with discovery := discovery }) <$> Discovery.check s.discovery.toData :
        Checked Settings).toExcept.mapError (.invalid "DiscoveryConfig") := by
  have layout : ({ query := query } : Command.Options).layout true s.layout = s.layout := by
    simp [Command.Options.layout]
  have discovery : ({ query := query } : Command.Options).discovery s.discovery =
      (Discovery.check s.discovery.toData).toExcept.mapError (.invalid "DiscoveryConfig") := rfl
  rw [Command.Options.settings, discovery, layout]
  cases Discovery.check s.discovery.toData with
  | passed again => simp [Checked.toExcept, Except.mapError]
  | failed problems => rfl

/-- What a second check and a command line without options make of settings. -/
structure Outcomes (s : Settings) (query : Text) : Prop where
  same : check s.toData = .passed s ↔
    ∀ extension ∈ s.discovery.extensions, beginsSolid extension = true
  sameWithOptions : ({ query := query } : Command.Options).settings true s = .ok s ↔
    ∀ extension ∈ s.discovery.extensions, beginsSolid extension = true
  refused : (∃ problems, check s.toData = .failed problems) ↔ [] ∈ s.discovery.extensions
  refusedWithOptions :
    (∃ refusal, ({ query := query } : Command.Options).settings true s = .error refusal) ↔
      [] ∈ s.discovery.extensions

theorem outcomes_of_isChecked {s : Settings} (checked : IsChecked s) (query : Text) :
    Outcomes s query := by
  obtain ⟨same, refused⟩ := Discovery.check_again checked.discovery
  have again := check_toData_eq checked
  have withOptions := settings_eq query s
  cases outcome : Discovery.check s.discovery.toData with
  | failed problems =>
      rw [outcome] at again withOptions same refused
      have empty := refused.mp ⟨_, rfl⟩
      have notSame : ¬∀ extension ∈ s.discovery.extensions, beginsSolid extension = true :=
        fun solid => by cases same.mpr solid
      refine ⟨?_, ?_, ⟨fun _ => empty, fun _ => ⟨_, again⟩⟩,
        ⟨fun _ => empty, fun _ => ⟨_, withOptions⟩⟩⟩
      · rw [again]
        exact ⟨nofun, fun solid => (notSame solid).elim⟩
      · rw [withOptions]
        exact ⟨nofun, fun solid => (notSame solid).elim⟩
  | passed discovery =>
      rw [outcome] at again withOptions same refused
      have notEmpty : [] ∉ s.discovery.extensions := fun empty => by
        obtain ⟨problems, failed⟩ := refused.mpr empty
        cases failed
      have kept : { s with discovery := discovery } = s ↔
          ∀ extension ∈ s.discovery.extensions, beginsSolid extension = true := by
        rw [← same, Checked.passed.injEq]
        exact ⟨congrArg Settings.discovery, fun eq => by rw [eq]⟩
      refine ⟨?_, ?_, ⟨?_, fun empty => (notEmpty empty).elim⟩,
        ⟨?_, fun empty => (notEmpty empty).elim⟩⟩
      · rw [again, ← kept]
        exact ⟨Checked.passed.inj, congrArg Checked.passed⟩
      · rw [withOptions, ← kept]
        exact ⟨Except.ok.inj, congrArg Except.ok⟩
      · rw [again]
        exact nofun
      · rw [withOptions]
        exact nofun

/-- Settings that a check has let pass are the same after a second check, and after a command line
without options, exactly if every extension begins with something that is not blank.  The second
check refuses them, and so does the command line, exactly if one of the extensions is empty. -/
theorem check_again_iff_beginsSolid {data : Data} {s : Settings} (accepted : check data = .passed s)
    (query : Text) :
    (check s.toData = .passed s ↔
        ∀ extension ∈ s.discovery.extensions, beginsSolid extension = true) ∧
      (({ query := query } : Command.Options).settings true s = .ok s ↔
        ∀ extension ∈ s.discovery.extensions, beginsSolid extension = true) ∧
      ((∃ problems, check s.toData = .failed problems) ↔ [] ∈ s.discovery.extensions) ∧
      ((∃ refusal, ({ query := query } : Command.Options).settings true s = .error refusal) ↔
        [] ∈ s.discovery.extensions) := by
  obtain ⟨same, sameWithOptions, refused, refusedWithOptions⟩ :=
    outcomes_of_isChecked (isChecked_of_check accepted) query
  exact ⟨same, sameWithOptions, refused, refusedWithOptions⟩

/-- Data that names a single extension for org documents. -/
def orgExtensionData (extension : Text) : Data :=
  .map [(.ofString "discovery",
    .map [(.ofString "org_extensions", .list [.text extension])])]

/-- Settings with a single extension for org documents. -/
def withOrgExtension (extension : Text) : Settings :=
  { discovery := { orgExtensions := [extension] } }

theorem check_orgExtensionData (extension : Text) (something : extension.isAllBlank = false) :
    check (orgExtensionData extension) =
      .passed (withOrgExtension (normalExtension extension)) := by
  have each : ∀ t ∈ [extension], t.isAllBlank = false := by simpa using something
  have org := checkExtensions_texts each
  have discovery : Discovery.check
      (.map [(.ofString "org_extensions", .list [.text extension])]) =
        .passed (withOrgExtension (normalExtension extension)).discovery := by
    rw [Discovery.check, Field.record, Discovery.checkFields,
      Field.onlyKnown_of_isKnown
        (by simp [Field.isKnown, Discovery.fields, Data.sameKey_ofString])]
    simp only [List.map_cons, List.map_nil] at org
    simp [Field.withDefault, org, withOrgExtension, Heading.distinct, Heading.distinctAux]
  rw [check, orgExtensionData, Field.record, checkFields,
    Field.onlyKnown_of_isKnown (by simp [Field.isKnown, fields, Data.sameKey_ofString])]
  simp [Field.withDefault, discovery, withOrgExtension]

theorem check_again_of_dotted_extension :
    check (orgExtensionData " .TXT".toList) = .passed (withOrgExtension "txt".toList) ∧
      check (withOrgExtension "txt".toList).toData =
        .passed (withOrgExtension "txt".toList) ∧
      ({ query := "word".toList } : Command.Options).settings true
        (withOrgExtension "txt".toList) = .ok (withOrgExtension "txt".toList) := by
  have normal : normalExtension " .TXT".toList = "txt".toList := by decide +kernel
  have accepted := check_orgExtensionData " .TXT".toList (by decide +kernel)
  rw [normal] at accepted
  obtain ⟨same, sameWithOptions, -, -⟩ := check_again_iff_beginsSolid accepted "word".toList
  have solid : ∀ extension ∈ (withOrgExtension "txt".toList).discovery.extensions,
      beginsSolid extension = true := by
    decide +kernel
  exact ⟨accepted, same.mpr solid, sameWithOptions.mpr solid⟩

/-- A lone point is let pass, and what is kept of it is refused; a blank behind a point is kept,
and trimmed the next time. -/
theorem not_same_when_checked_again :
    (check (orgExtensionData ['.']) = .passed (withOrgExtension []) ∧
      (∃ problems, check (withOrgExtension []).toData = .failed problems) ∧
      ∃ refusal, ({ query := "word".toList } : Command.Options).settings true
        (withOrgExtension []) = .error refusal) ∧
    (check (orgExtensionData ". a".toList) = .passed (withOrgExtension " a".toList) ∧
      check (withOrgExtension " a".toList).toData ≠ .passed (withOrgExtension " a".toList) ∧
      ({ query := "word".toList } : Command.Options).settings true
        (withOrgExtension " a".toList) ≠ .ok (withOrgExtension " a".toList)) := by
  constructor
  · have normal : normalExtension ['.'] = [] := by decide +kernel
    have accepted := check_orgExtensionData ['.'] (by decide +kernel)
    rw [normal] at accepted
    have outcomes := outcomes_of_isChecked (isChecked_of_check accepted) "word".toList
    have empty : [] ∈ (withOrgExtension []).discovery.extensions := by decide +kernel
    exact ⟨accepted, outcomes.refused.mpr empty, outcomes.refusedWithOptions.mpr empty⟩
  · have normal : normalExtension ". a".toList = " a".toList := by decide +kernel
    have accepted := check_orgExtensionData ". a".toList (by decide +kernel)
    rw [normal] at accepted
    have outcomes := outcomes_of_isChecked (isChecked_of_check accepted) "word".toList
    have blank : ¬∀ extension ∈ (withOrgExtension " a".toList).discovery.extensions,
        beginsSolid extension = true := by
      decide +kernel
    exact ⟨accepted, blank ∘ outcomes.same.mp, blank ∘ outcomes.sameWithOptions.mp⟩

end Settings

end OutlineSearch
