import Mathlib.Data.Set.Card
import OutlineSearch.Proofs.Tree.Place

/-!
# What a walk finds

A walk through a folder enters every folder below it that it reaches through folders whose
names are not ignored, and looks once at every entry in these that leads to no folder.  What
becomes of such an entry is decided by its name, its extension and its size.  The documents, their
order and all counts of a walk follow from this.
-/

namespace OutlineSearch

namespace Discovery

/-- The kind of the documents with an extension.  An extension that is listed for both kinds
is one of Markdown. -/
inductive Types (d : Discovery) (extension : Text) : OutlineKind → Prop where
  | markdown : d.noMarkdown = false →
      Text.lower (extension.dropWhile (· == '.')) ∈ d.markdownExtensions →
      Types d extension .markdown
  | org : d.noOrg = false →
      Text.lower (extension.dropWhile (· == '.')) ∈ d.orgExtensions →
      (d.noMarkdown = false →
        Text.lower (extension.dropWhile (· == '.')) ∉ d.markdownExtensions) →
      Types d extension .org

theorem kindOf?_eq_some_iff (d : Discovery) (extension : Text) (kind : OutlineKind) :
    d.kindOf? extension = some kind ↔ d.Types extension kind := by
  constructor
  · intro known
    simp only [kindOf?] at known
    split at known
    case isTrue isMarkdown =>
      cases known
      simp only [Bool.and_eq_true, Bool.not_eq_true', List.contains_iff_mem] at isMarkdown
      exact .markdown isMarkdown.1 isMarkdown.2
    case isFalse noMarkdown =>
      split at known
      case isTrue isOrg =>
        cases known
        simp only [Bool.and_eq_true, Bool.not_eq_true', List.contains_iff_mem] at isOrg noMarkdown
        exact .org isOrg.1 isOrg.2 fun enabled listed => noMarkdown ⟨enabled, listed⟩
      case isFalse => cases known
  · intro types
    cases types with
    | markdown enabled listed => simp [kindOf?, enabled, listed]
    | org enabled listed other =>
        have notMarkdown : ¬(d.noMarkdown = false ∧
            Text.lower (extension.dropWhile (· == '.')) ∈ d.markdownExtensions) :=
          fun both => other both.1 both.2
        simp [kindOf?, enabled, listed, notMarkdown]

theorem kindOf?_eq_none_iff (d : Discovery) (extension : Text) :
    d.kindOf? extension = none ↔ ∀ kind, ¬d.Types extension kind := by
  simp only [← kindOf?_eq_some_iff, ← Option.eq_none_iff_forall_ne_some]

end Discovery

namespace Walker

/-- The folders that a walk through a tree enters, each with its entries. -/
inductive Enters (w : Walker) : Tree → List Text → List (Text × Tree) → Prop where
  | here {entries : List (Text × Tree)} : Enters w (.folder entries) [] entries
  | inside {entries found : List (Text × Tree)} {name : Text} {t : Tree} {place : List Text} :
      (name, t) ∈ entries → w.ignores name = false → Enters w t place found →
      Enters w (.folder entries) (name :: place) found

/-- An entry is a folder, or a link to one. -/
def LeadsToFolder (w : Walker) (p : Path) (t : Tree) : Prop :=
  (∃ entries, t = .folder entries) ∨
    ∃ target entries, t = .link target ∧ w.disk.find? p.toText = some (.folder entries)

/-- The entries that a walk looks at: those of the folders that it enters, unless they lead to
a folder. -/
inductive LooksAt (w : Walker) (p : Path) (tree : Tree) : List Text → Prop where
  | entry {place : List Text} {entries : List (Text × Tree)} {name : Text} {t : Tree} :
      w.Enters tree place entries → (name, t) ∈ entries →
      ¬w.LeadsToFolder (p.below (place ++ [name])) t → LooksAt w p tree (place ++ [name])

/-- What becomes of an entry that a walk looks at. -/
inductive Verdict where
  | ignored
  | untyped
  | unreadable
  | oversized
  | selected
deriving Repr, DecidableEq

inductive Judges (w : Walker) (p : Path) : Verdict → Prop where
  | ignored : w.ignores p.name = true → Judges w p .ignored
  | untyped : w.ignores p.name = false →
      (∀ kind, ¬w.discovery.Types p.extension kind) → Judges w p .untyped
  | unreadable {kind : OutlineKind} {error : FileError} : w.ignores p.name = false →
      w.discovery.Types p.extension kind → w.disk.resolve p.toText = .error error →
      Judges w p .unreadable
  | oversized {kind : OutlineKind} {place : List Text} {t : Tree} : w.ignores p.name = false →
      w.discovery.Types p.extension kind → w.disk.resolve p.toText = .ok (place, t) →
      w.limits.maxBytes < t.size → Judges w p .oversized
  | selected {kind : OutlineKind} {place : List Text} {t : Tree} : w.ignores p.name = false →
      w.discovery.Types p.extension kind → w.disk.resolve p.toText = .ok (place, t) →
      t.size ≤ w.limits.maxBytes → Judges w p .selected

/-- The entries that a walk looks at and judges in one way. -/
def judged (w : Walker) (p : Path) (tree : Tree) (verdict : Verdict) : Set (List Text) :=
  { place | w.LooksAt p tree place ∧ w.Judges (p.below place) verdict }

/-- The documents of a walk and its counts, told from the tree. -/
structure Finds (w : Walker) (p : Path) (tree : Tree) (walk : Walk) : Prop where
  /-- The documents are at the selected places, in their order. -/
  documents : ∃ places : List (List Text), places.Pairwise Precedes ∧
    (∀ place, place ∈ places ↔ place ∈ w.judged p tree .selected) ∧
    List.Forall₂ (fun place document => document.path = (p.below place).toText ∧
      w.discovery.Types (p.below place).extension document.kind) places walk.documents
  distinct : (walk.documents.map (·.path)).Nodup
  matched : walk.tally.matched = walk.documents.length
  scanned : (walk.tally.scanned : ℕ∞) = walk.tally.matched +
    (w.judged p tree .untyped).encard + (w.judged p tree .oversized).encard +
    (w.judged p tree .unreadable).encard
  ignored : (walk.tally.ignored : ℕ∞) =
    (w.judged p tree .ignored).encard + (w.judged p tree .oversized).encard
  folders : (walk.tally.folders : ℕ∞) = { place | ∃ entries, w.Enters tree place entries }.encard
  errors : (walk.tally.errors : ℕ∞) = (w.judged p tree .unreadable).encard

/-! ## Single entries -/

/-- What the verdict on an entry adds to the counts. -/
def Verdict.tally : Verdict → Tally
  | ignored => { ignored := 1 }
  | untyped => { scanned := 1 }
  | unreadable => { scanned := 1, errors := 1 }
  | oversized => { scanned := 1, ignored := 1 }
  | selected => { scanned := 1, matched := 1 }

theorem Judges.unique {w : Walker} {p : Path} {verdict other : Verdict}
    (first : w.Judges p verdict) (second : w.Judges p other) : verdict = other := by
  cases first <;> cases second <;> simp_all <;> omega

/-- Visits what is at a path and leads to no folder. -/
def visit (w : Walker) (p : Path) : Walk :=
  if w.ignores p.name then { tally := { ignored := 1 } } else w.visitFile p

theorem visitEntry_eq (w : Walker) (p : Path) (name : Text) :
    w.visitEntry p name = w.visit (p.child name) := by
  simp [visitEntry, visit, Path.name, Path.child]

/-- Every visit comes to a verdict, and its outcome is the one of the verdict. -/
theorem exists_judges (w : Walker) (p : Path) : ∃ verdict, w.Judges p verdict ∧
    (w.visit p).tally = verdict.tally ∧
    (verdict ≠ .selected → (w.visit p).documents = []) ∧
    (verdict = .selected → ∃ kind, w.discovery.Types p.extension kind ∧
      (w.visit p).documents = [⟨p.toText, kind⟩]) := by
  by_cases name : w.ignores p.name = true
  · exact ⟨.ignored, .ignored name, by simp [visit, name, Verdict.tally]⟩
  · rw [Bool.not_eq_true] at name
    cases known : w.discovery.kindOf? p.extension with
    | none =>
        have untyped := (w.discovery.kindOf?_eq_none_iff p.extension).mp known
        exact ⟨.untyped, .untyped name untyped,
          by simp [visit, name, visitFile, known, Verdict.tally]⟩
    | some kind =>
        have typed := (w.discovery.kindOf?_eq_some_iff p.extension kind).mp known
        cases stat : w.disk.resolve p.toText with
        | error error =>
            exact ⟨.unreadable, .unreadable name typed stat,
              by simp [visit, name, visitFile, known, stat, Verdict.tally]⟩
        | ok result =>
            obtain ⟨place, t⟩ := result
            by_cases large : w.limits.maxBytes < t.size
            · exact ⟨.oversized, .oversized name typed stat large,
                by simp [visit, name, visitFile, known, stat, large, Verdict.tally]⟩
            · refine ⟨.selected, .selected name typed stat (not_lt.mp large), ?_⟩
              simp [visit, name, visitFile, known, stat, large, Verdict.tally, typed]

end Walker

/-! ## Walks as sequences of steps -/

namespace Walk

theorem append_assoc (a b c : Walk) : a ++ b ++ c = a ++ (b ++ c) := by
  change (a.append b).append c = a.append (b.append c)
  simp [append, Tally.add, Nat.add_assoc]

theorem nil_append (a : Walk) : {} ++ a = a := by
  change Walk.append {} a = a
  simp [append, Tally.add]

theorem concat_cons (walk : Walk) (walks : List Walk) :
    concat (walk :: walks) = walk ++ concat walks := rfl

theorem concat_append (front back : List Walk) :
    concat (front ++ back) = concat front ++ concat back := by
  induction front with
  | nil => exact (nil_append _).symm
  | cons walk rest induction =>
      rw [List.cons_append, concat_cons, concat_cons, induction, append_assoc]

theorem concat_flatMap {α : Type} (f : α → List Walk) (xs : List α) :
    concat (xs.flatMap f) = concat (xs.map fun x => concat (f x)) := by
  induction xs with
  | nil => rfl
  | cons x rest induction =>
      rw [List.flatMap_cons, concat_append, induction, List.map_cons, concat_cons]

theorem documents_concat (walks : List Walk) :
    (concat walks).documents = walks.flatMap (·.documents) := by
  induction walks with
  | nil => rfl
  | cons walk rest induction =>
      rw [List.flatMap_cons, ← induction]
      rfl

end Walk

/-- A step of a walk: into a folder, or to an entry that leads to none. -/
inductive Step where
  | enter (place : List Text)
  | look (place : List Text)

namespace Step

/-- A step as it is seen from outside the folder in which it is taken. -/
def under (name : Text) : Step → Step
  | enter place => enter (name :: place)
  | look place => look (name :: place)

theorem enter_mem_map_under {steps : List Step} {name : Text} {place : List Text} :
    enter place ∈ steps.map (under name) ↔ ∃ rest, enter rest ∈ steps ∧ place = name :: rest := by
  rw [List.mem_map]
  constructor
  · rintro ⟨step, member, same⟩
    cases step with
    | enter rest =>
        cases same
        exact ⟨rest, member, rfl⟩
    | look rest => cases same
  · rintro ⟨rest, member, rfl⟩
    exact ⟨enter rest, member, rfl⟩

theorem look_mem_map_under {steps : List Step} {name : Text} {place : List Text} :
    look place ∈ steps.map (under name) ↔ ∃ rest, look rest ∈ steps ∧ place = name :: rest := by
  rw [List.mem_map]
  constructor
  · rintro ⟨step, member, same⟩
    cases step with
    | enter rest => cases same
    | look rest =>
        cases same
        exact ⟨rest, member, rfl⟩
  · rintro ⟨rest, member, rfl⟩
    exact ⟨look rest, member, rfl⟩

/-- No folder is entered twice, and entries come in their order. -/
def Before : Step → Step → Prop
  | enter place, enter other => place ≠ other
  | look place, look other => Precedes place other
  | _, _ => True

theorem Before.under {step other : Step} (before : step.Before other) (name : Text) :
    (step.under name).Before (other.under name) := by
  cases step <;> cases other
  case enter.enter place other =>
    intro same
    cases same
    exact before rfl
  case enter.look => trivial
  case look.enter => trivial
  case look.look => exact .inside before

/-- A step that is taken below a folder does not look at the folder itself. -/
def Inner : Step → Prop
  | enter _ => True
  | look place => place ≠ []

theorem before_under_of_lt {name other : Text} (less : name < other) {step next : Step}
    (left : step.Inner) (right : next.Inner) : (step.under name).Before (next.under other) := by
  cases step <;> cases next
  case enter.enter =>
    intro same
    cases same
    exact lt_irrefl _ less
  case enter.look => trivial
  case look.enter => trivial
  case look.look place another =>
    obtain ⟨first, rest, rfl⟩ := List.exists_cons_of_ne_nil left
    obtain ⟨second, more, rfl⟩ := List.exists_cons_of_ne_nil right
    exact .folders less

theorem look_before_under (file name : Text) {step : Step} (inner : step.Inner) :
    (look [file]).Before (step.under name) := by
  cases step with
  | enter place => trivial
  | look place =>
      obtain ⟨first, rest, rfl⟩ := List.exists_cons_of_ne_nil inner
      exact .fileFirst

end Step

namespace Walker

/-- Takes a step below a path. -/
def take (w : Walker) (p : Path) : Step → Walk
  | .enter _ => { tally := { folders := 1 } }
  | .look place => w.visit (p.below place)

theorem take_under (w : Walker) (p : Path) (name : Text) (step : Step) :
    w.take p (step.under name) = w.take (p.child name) step := by
  cases step with
  | enter place => rfl
  | look place => simp [Step.under, take]

/-- The steps of a walk through a tree. -/
structure Takes (w : Walker) (p : Path) (tree : Tree) (steps : List Step) : Prop where
  walk : w.walkFolder p tree = Walk.concat (steps.map (w.take p))
  enter : ∀ place, .enter place ∈ steps ↔ ∃ entries, w.Enters tree place entries
  look : ∀ place, .look place ∈ steps ↔ w.LooksAt p tree place
  ordered : steps.Pairwise Step.Before

section Folder

variable (w : Walker) (p : Path) (entries : List (Text × Tree))

/-- The subfolders that a walk enters from a folder. -/
def subfolders : List (Text × Tree) :=
  entries.filter fun entry => entry.2.isFolder && !w.ignores entry.1

theorem walkSubfolders_eq : w.walkSubfolders p entries =
    (w.subfolders entries).map fun entry => (entry.1, w.walkFolder (p.child entry.1) entry.2) := by
  induction entries with
  | nil => rfl
  | cons entry rest induction =>
      obtain ⟨name, t⟩ := entry
      unfold subfolders at induction ⊢
      rw [walkSubfolders, List.filter_cons, induction]
      split <;> rfl

/-- The entries of a folder that lead to no folder. -/
def files : List (Text × Tree) := entries.filter fun entry => !w.leadsToFolder p entry

theorem visitFiles_eq : w.visitFiles p entries =
    Walk.concat ((byName (w.files p entries)).map fun entry => w.visit (p.child entry.1)) := by
  simp only [visitFiles, files, visitEntry_eq]

/-- A walk through a folder: into it, to its files, and through its subfolders. -/
theorem walkFolder_eq : w.walkFolder p (.folder entries) =
    { tally := { folders := 1 } } ++
      Walk.concat ((byName (w.files p entries)).map fun entry => w.visit (p.child entry.1)) ++
      Walk.concat ((byName (w.subfolders entries)).map fun entry =>
        w.walkFolder (p.child entry.1) entry.2) := by
  rw [walkFolder, visitFiles_eq, walkSubfolders_eq, byName_map, List.map_map]
  rfl

theorem mem_subfolders {entry : Text × Tree} : entry ∈ w.subfolders entries ↔
    entry ∈ entries ∧ entry.2.isFolder = true ∧ w.ignores entry.1 = false := by
  simp [subfolders]

theorem leadsToFolder_iff (entry : Text × Tree) :
    w.leadsToFolder p entry = true ↔ w.LeadsToFolder (p.child entry.1) entry.2 := by
  obtain ⟨name, t⟩ := entry
  unfold leadsToFolder LeadsToFolder
  cases t with
  | link target =>
      cases found : w.disk.find? (p.child name).toText with
      | none => simp
      | some t => cases t <;> simp [Tree.isFolder]
  | _ => simp

theorem mem_files {entry : Text × Tree} : entry ∈ w.files p entries ↔
    entry ∈ entries ∧ ¬w.LeadsToFolder (p.child entry.1) entry.2 := by
  rw [← leadsToFolder_iff]
  simp [files]

theorem Enters.isFolder {w : Walker} {tree : Tree} {place : List Text}
    {found : List (Text × Tree)} (enters : w.Enters tree place found) : tree.isFolder = true := by
  cases enters <;> rfl

theorem enters_folder_iff (place : List Text) :
    (∃ found, w.Enters (.folder entries) place found) ↔ place = [] ∨
      ∃ entry ∈ w.subfolders entries, ∃ rest, (∃ found, w.Enters entry.2 rest found) ∧
        place = entry.1 :: rest := by
  constructor
  · rintro ⟨found, enters⟩
    cases enters with
    | here => exact .inl rfl
    | @inside _ _ name t rest member named enters =>
        have isSubfolder : (name, t) ∈ w.subfolders entries :=
          (w.mem_subfolders entries).mpr ⟨member, enters.isFolder, named⟩
        exact .inr ⟨(name, t), isSubfolder, rest, ⟨found, enters⟩, rfl⟩
  · rintro (rfl | ⟨⟨name, t⟩, isSubfolder, rest, ⟨found, enters⟩, rfl⟩)
    · exact ⟨entries, .here⟩
    · obtain ⟨member, -, named⟩ := (w.mem_subfolders entries).mp isSubfolder
      exact ⟨found, .inside member named enters⟩

theorem looksAt_folder_iff (place : List Text) :
    w.LooksAt p (.folder entries) place ↔ (∃ entry ∈ w.files p entries, place = [entry.1]) ∨
      ∃ entry ∈ w.subfolders entries, ∃ rest, w.LooksAt (p.child entry.1) entry.2 rest ∧
        place = entry.1 :: rest := by
  constructor
  · intro looks
    obtain @⟨folder, found, name, t, enters, member, noFolder⟩ := looks
    cases enters with
    | here =>
        have isFile : (name, t) ∈ w.files p entries := by
          rw [mem_files]
          exact ⟨member, noFolder⟩
        exact .inl ⟨(name, t), isFile, rfl⟩
    | @inside _ _ outer u rest memberOuter named enters =>
        have isSubfolder : (outer, u) ∈ w.subfolders entries :=
          (w.mem_subfolders entries).mpr ⟨memberOuter, enters.isFolder, named⟩
        have looks : w.LooksAt (p.child outer) u (rest ++ [name]) :=
          .entry enters member (by simpa using noFolder)
        exact .inr ⟨(outer, u), isSubfolder, rest ++ [name], looks, rfl⟩
  · rintro (⟨⟨name, t⟩, isFile, rfl⟩ | ⟨⟨outer, u⟩, isSubfolder, rest, looks, rfl⟩)
    · obtain ⟨member, noFolder⟩ := (w.mem_files p entries).mp isFile
      exact @LooksAt.entry w p _ [] entries name t .here member noFolder
    · obtain ⟨memberOuter, -, named⟩ := (w.mem_subfolders entries).mp isSubfolder
      obtain @⟨folder, found, name, t, enters, member, noFolder⟩ := looks
      have entersOuter : w.Enters (.folder entries) (outer :: folder) found :=
        .inside memberOuter named enters
      have noFolderBelow : ¬w.LeadsToFolder (p.below (outer :: folder ++ [name])) t := by
        simpa using noFolder
      exact .entry entersOuter member noFolderBelow

end Folder

theorem Takes.inner {w : Walker} {p : Path} {tree : Tree} {steps : List Step}
    (takes : w.Takes p tree steps) (step : Step) (member : step ∈ steps) : step.Inner := by
  cases step with
  | enter place => trivial
  | look place =>
      cases (takes.look place).mp member with
      | entry => simp [Step.Inner]

section StepsThrough

variable (w : Walker) (p : Path) (entries : List (Text × Tree)) (inner : Text × Tree → List Step)

/-- The steps through a folder, put together from those through its subfolders. -/
def stepsThrough : List Step :=
  .enter [] :: ((byName (w.files p entries)).map (fun entry => .look [entry.1]) ++
    (byName (w.subfolders entries)).flatMap fun entry =>
      (inner entry).map (Step.under entry.1))

theorem enter_mem_stepsThrough (place : List Text) :
    .enter place ∈ w.stepsThrough p entries inner ↔ place = [] ∨
      ∃ entry ∈ w.subfolders entries, ∃ rest, .enter rest ∈ inner entry ∧
        place = entry.1 :: rest := by
  simp only [stepsThrough, List.mem_cons, List.mem_append, List.mem_map, List.mem_flatMap,
    Step.enter.injEq, reduceCtorEq, and_false, exists_false, false_or,
    (byName_perm _).mem_iff, ← Step.enter_mem_map_under]

theorem look_mem_stepsThrough (place : List Text) :
    .look place ∈ w.stepsThrough p entries inner ↔
      (∃ entry ∈ w.files p entries, place = [entry.1]) ∨
      ∃ entry ∈ w.subfolders entries, ∃ rest, .look rest ∈ inner entry ∧
        place = entry.1 :: rest := by
  simp only [stepsThrough, List.mem_cons, List.mem_append, List.mem_flatMap, reduceCtorEq,
    false_or, (byName_perm _).mem_iff, ← Step.look_mem_map_under]
  simp only [List.mem_map, Step.look.injEq, (byName_perm _).mem_iff, eq_comm (b := place)]

variable {w p entries inner}

theorem concat_stepsThrough
    (takes : ∀ entry ∈ w.subfolders entries, w.Takes (p.child entry.1) entry.2 (inner entry)) :
    w.walkFolder p (.folder entries) =
      Walk.concat ((w.stepsThrough p entries inner).map (w.take p)) := by
  have subfolder : ∀ entry ∈ byName (w.subfolders entries),
      w.walkFolder (p.child entry.1) entry.2 =
        Walk.concat (((inner entry).map (Step.under entry.1)).map (w.take p)) := by
    intro entry member
    rw [(takes entry ((byName_perm _).mem_iff.mp member)).walk, List.map_map]
    congr 2
    funext step
    exact (w.take_under p entry.1 step).symm
  rw [walkFolder_eq, List.map_congr_left subfolder, stepsThrough, List.map_cons,
    List.map_append, List.map_map, List.map_flatMap, Walk.concat_cons, Walk.concat_append,
    Walk.concat_flatMap, Walk.append_assoc]
  rfl

theorem pairwise_stepsThrough (distinct : (entries.map (·.1)).Nodup)
    (takes : ∀ entry ∈ w.subfolders entries, w.Takes (p.child entry.1) entry.2 (inner entry)) :
    (w.stepsThrough p entries inner).Pairwise Step.Before := by
  have unlike : ∀ {q : Text × Tree → Bool}, (byName (entries.filter q)).Pairwise
      fun entry other => entry.1 < other.1 := by
    intro q
    exact byName_pairwise ((entries.filter_sublist.map _).nodup distinct)
  have isInner : ∀ entry ∈ byName (w.subfolders entries), ∀ step ∈ inner entry,
      step.Inner := by
    intro entry member step stepMember
    exact (takes entry ((byName_perm _).mem_iff.mp member)).inner step stepMember
  rw [stepsThrough, List.pairwise_cons, List.pairwise_append, List.pairwise_map,
    List.pairwise_flatMap]
  refine ⟨?first, unlike.imp fun less => .files less, ⟨?within, ?across⟩, ?after⟩
  case first =>
    intro step member
    cases step with
    | look place => trivial
    | enter place =>
        rcases List.mem_append.mp member with file | inside
        · simp at file
        · obtain ⟨entry, -, under⟩ := List.mem_flatMap.mp inside
          obtain ⟨rest, -, rfl⟩ := Step.enter_mem_map_under.mp under
          exact List.cons_ne_nil entry.1 rest ∘ Eq.symm
  case within =>
    intro entry member
    rw [List.pairwise_map]
    have ordered := (takes entry ((byName_perm _).mem_iff.mp member)).ordered
    exact ordered.imp fun before => before.under entry.1
  case across =>
    refine unlike.imp_of_mem ?_
    simp only [List.mem_map]
    rintro entry other left right less _ ⟨step, member, rfl⟩ _ ⟨next, nextMember, rfl⟩
    exact Step.before_under_of_lt less (isInner entry left step member)
      (isInner other right next nextMember)
  case after =>
    simp only [List.mem_map, List.mem_flatMap]
    rintro _ ⟨file, -, rfl⟩ _ ⟨entry, member, step, stepMember, rfl⟩
    exact Step.look_before_under file.1 entry.1 (isInner entry member step stepMember)

end StepsThrough

/-- The steps through a folder are those of the walk through it. -/
theorem takes_stepsThrough {w : Walker} {p : Path} {entries : List (Text × Tree)}
    {inner : Text × Tree → List Step} (distinct : (entries.map (·.1)).Nodup)
    (takes : ∀ entry ∈ w.subfolders entries, w.Takes (p.child entry.1) entry.2 (inner entry)) :
    w.Takes p (.folder entries) (w.stepsThrough p entries inner) := by
  constructor
  · exact concat_stepsThrough takes
  · intro place
    rw [enter_mem_stepsThrough, enters_folder_iff]
    refine or_congr_right (exists_congr fun entry => and_congr_right fun member => ?_)
    simp only [(takes entry member).enter]
  · intro place
    rw [look_mem_stepsThrough, looksAt_folder_iff]
    refine or_congr_right (exists_congr fun entry => and_congr_right fun member => ?_)
    simp only [(takes entry member).look]
  · exact pairwise_stepsThrough distinct takes

/-- Every walk through a tree is a sequence of steps. -/
theorem exists_takes {w : Walker} {tree : Tree} (wellFormed : tree.WellFormed) (p : Path) :
    ∃ steps, w.Takes p tree steps := by
  induction wellFormed generalizing p with
  | @leaf tree isLeaf =>
      refine ⟨[], ?_, ?_, ?_, .nil⟩
      · cases tree <;> simp_all [walkFolder, Walk.concat, Tree.isFolder]
      · intro place
        simp only [List.not_mem_nil, false_iff, not_exists]
        intro entries enters
        rw [enters.isFolder] at isLeaf
        cases isLeaf
      · intro place
        simp only [List.not_mem_nil, false_iff]
        rintro @⟨_, _, _, _, enters, -, -⟩
        rw [enters.isFolder] at isLeaf
        cases isLeaf
  | @folder entries distinct _ _ induction =>
      have inside : ∀ entry, ∃ steps, entry ∈ w.subfolders entries →
          w.Takes (p.child entry.1) entry.2 steps := by
        intro entry
        by_cases member : entry ∈ entries
        · obtain ⟨steps, takes⟩ := induction entry member (p.child entry.1)
          exact ⟨steps, fun _ => takes⟩
        · exact ⟨[], fun sub => absurd ((w.mem_subfolders entries).mp sub).1 member⟩
      choose inner takes using inside
      exact ⟨w.stepsThrough p entries inner, takes_stepsThrough distinct takes⟩

end Walker

/-! ## Counts and documents of a sequence of steps -/

namespace Step

def enters : List Step → List (List Text)
  | [] => []
  | enter place :: rest => place :: enters rest
  | look _ :: rest => enters rest

def looks : List Step → List (List Text)
  | [] => []
  | enter _ :: rest => looks rest
  | look place :: rest => place :: looks rest

theorem mem_enters {steps : List Step} {place : List Text} :
    place ∈ enters steps ↔ enter place ∈ steps := by
  induction steps with
  | nil => simp [enters]
  | cons step rest induction => cases step <;> simp [enters, induction]

theorem mem_looks {steps : List Step} {place : List Text} :
    place ∈ looks steps ↔ look place ∈ steps := by
  induction steps with
  | nil => simp [looks]
  | cons step rest induction => cases step <;> simp [looks, induction]

theorem nodup_enters {steps : List Step} (ordered : steps.Pairwise Before) :
    (enters steps).Nodup := by
  induction ordered with
  | nil => exact List.nodup_nil
  | @cons step rest before _ induction =>
      cases step with
      | enter place =>
          refine List.nodup_cons.mpr ⟨?_, induction⟩
          intro again
          exact before (enter place) (mem_enters.mp again) rfl
      | look place => exact induction

theorem pairwise_looks {steps : List Step} (ordered : steps.Pairwise Before) :
    (looks steps).Pairwise Precedes := by
  induction ordered with
  | nil => exact .nil
  | @cons step rest before _ induction =>
      cases step with
      | enter place => exact induction
      | look place =>
          refine List.pairwise_cons.mpr ⟨?_, induction⟩
          intro other member
          exact before (look other) (mem_looks.mp member)

end Step

/-- The counts of a walk that enters some folders and comes to some verdicts. -/
def Tally.of (folders : Nat) (verdicts : List Walker.Verdict) : Tally where
  scanned := verdicts.count .selected + verdicts.count .untyped + verdicts.count .oversized +
    verdicts.count .unreadable
  matched := verdicts.count .selected
  folders := folders
  ignored := verdicts.count .ignored + verdicts.count .oversized
  errors := verdicts.count .unreadable

theorem Tally.add_of (verdict : Walker.Verdict) (folders : Nat) (verdicts : List Walker.Verdict) :
    verdict.tally.add (.of folders verdicts) = .of folders (verdict :: verdicts) := by
  cases verdict <;> simp [Walker.Verdict.tally, Tally.of, Tally.add] <;> omega

namespace Walker

variable {w : Walker} {p : Path} {verdict : Path → Verdict}

theorem tally_of_steps (tally : ∀ q, (w.visit q).tally = (verdict q).tally) (steps : List Step) :
    (Walk.concat (steps.map (w.take p))).tally =
      .of (Step.enters steps).length
        ((Step.looks steps).map fun place => verdict (p.below place)) := by
  induction steps with
  | nil => rfl
  | cons step rest induction =>
      rw [List.map_cons, Walk.concat_cons]
      change (w.take p step).tally.add (Walk.concat (rest.map (w.take p))).tally = _
      rw [induction]
      cases step with
      | enter place => simp [take, Tally.of, Tally.add, Step.enters, Step.looks, Nat.add_comm]
      | look place =>
          rw [take, tally, Tally.add_of]
          rfl

theorem documents_of_steps (steps : List Step) :
    (Walk.concat (steps.map (w.take p))).documents =
      (Step.looks steps).flatMap fun place => (w.visit (p.below place)).documents := by
  rw [Walk.documents_concat]
  induction steps with
  | nil => rfl
  | cons step rest induction =>
      rw [List.map_cons, List.flatMap_cons, induction]
      cases step <;> rfl

/-- A set has as many members as a list that holds each of them once. -/
theorem encard_of_nodup {places : List (List Text)} {s : Set (List Text)} (nodup : places.Nodup)
    (holds : ∀ place, place ∈ places ↔ place ∈ s) : s.encard = places.length := by
  have same : s = (places.toFinset : Set (List Text)) := by
    ext place
    simp [holds]
  rw [same, Set.encard_coe_eq_coe_finsetCard, List.toFinset_card_of_nodup nodup]

section Looks

variable {tree : Tree} {looks : List (List Text)}

theorem mem_filter_looks (judges : ∀ q, w.Judges q (verdict q))
    (holds : ∀ place, place ∈ looks ↔ w.LooksAt p tree place) (kind : Verdict)
    (place : List Text) : (place ∈ looks.filter fun place => verdict (p.below place) = kind) ↔
      place ∈ w.judged p tree kind := by
  rw [List.mem_filter, holds, decide_eq_true_eq]
  refine and_congr_right fun _ => ?_
  constructor
  · rintro rfl
    exact judges (p.below place)
  · intro judged
    exact (judges (p.below place)).unique judged

theorem count_eq_length_filter (looks : List (List Text)) (kind : Verdict) :
    (looks.map fun place => verdict (p.below place)).count kind =
      (looks.filter fun place => verdict (p.below place) = kind).length := by
  rw [List.count, List.countP_map, List.countP_eq_length_filter]
  rfl

theorem count_looks (judges : ∀ q, w.Judges q (verdict q)) (nodup : looks.Nodup)
    (holds : ∀ place, place ∈ looks ↔ w.LooksAt p tree place) (kind : Verdict) :
    (((looks.map fun place => verdict (p.below place)).count kind : ℕ) : ℕ∞) =
      (w.judged p tree kind).encard := by
  rw [encard_of_nodup (nodup.filter _) (mem_filter_looks judges holds kind),
    count_eq_length_filter]

end Looks

theorem documents_of_looks
    (unselected : ∀ q, verdict q ≠ .selected → (w.visit q).documents = [])
    (selects : ∀ q, verdict q = .selected → ∃ kind, w.discovery.Types q.extension kind ∧
      (w.visit q).documents = [⟨q.toText, kind⟩]) (looks : List (List Text)) :
    List.Forall₂ (fun place document => document.path = (p.below place).toText ∧
        w.discovery.Types (p.below place).extension document.kind)
      (looks.filter fun place => verdict (p.below place) = .selected)
      (looks.flatMap fun place => (w.visit (p.below place)).documents) := by
  induction looks with
  | nil => exact .nil
  | cons place rest induction =>
      rw [List.flatMap_cons]
      by_cases selected : verdict (p.below place) = .selected
      · obtain ⟨kind, types, document⟩ := selects (p.below place) selected
        rw [List.filter_cons_of_pos (by simpa using selected), document]
        exact .cons ⟨rfl, types⟩ induction
      · rw [List.filter_cons_of_neg (by simpa using selected), unselected (p.below place) selected]
        exact induction

theorem paths_of_documents {places : List (List Text)} {documents : List Document}
    (found : List.Forall₂ (fun place document => document.path = (p.below place).toText ∧
      w.discovery.Types (p.below place).extension document.kind) places documents) :
    documents.map (·.path) = places.map fun place => (p.below place).toText := by
  induction found with
  | nil => rfl
  | cons first _ induction => rw [List.map_cons, List.map_cons, first.1, induction]

theorem Enters.no_slash {tree : Tree} {place : List Text} {entries : List (Text × Tree)}
    (enters : w.Enters tree place entries) (wellFormed : tree.WellFormed) :
    (∀ name ∈ place, '/' ∉ name) ∧ ∀ entry ∈ entries, '/' ∉ entry.1 := by
  induction enters with
  | here =>
      cases wellFormed with
      | leaf isLeaf => cases isLeaf
      | folder _ named _ => exact ⟨by simp, named⟩
  | inside member _ _ induction =>
      cases wellFormed with
      | leaf isLeaf => cases isLeaf
      | folder _ named inside =>
          obtain ⟨path, found⟩ := induction (inside _ member)
          refine ⟨?_, found⟩
          intro other isName
          rcases List.mem_cons.mp isName with rfl | deeper
          · exact named _ member
          · exact path other deeper

theorem LooksAt.no_slash {tree : Tree} {place : List Text} (looks : w.LooksAt p tree place)
    (wellFormed : tree.WellFormed) : ∀ name ∈ place, '/' ∉ name := by
  obtain @⟨folder, entries, name, t, enters, member, -⟩ := looks
  obtain ⟨path, found⟩ := enters.no_slash wellFormed
  intro other isName
  rcases List.mem_append.mp isName with inside | last
  · exact path other inside
  · rw [List.mem_singleton.mp last]
    exact found (name, t) member

theorem looksAt_path_inj {tree : Tree} (wellFormed : tree.WellFormed) {place other : List Text}
    (first : w.LooksAt p tree place) (second : w.LooksAt p tree other)
    (same : (p.below place).toText = (p.below other).toText) : place = other := by
  have left : place ≠ [] := by
    cases first with
    | entry => simp
  have right : other ≠ [] := by
    cases second with
    | entry => simp
  exact p.toText_below_inj left right (first.no_slash wellFormed) (second.no_slash wellFormed)
    same

theorem finds_walkFolder {tree : Tree} (wellFormed : tree.WellFormed) (w : Walker) (p : Path) :
    w.Finds p tree (w.walkFolder p tree) := by
  obtain ⟨steps, takes⟩ := exists_takes (w := w) wellFormed p
  choose verdict judges tally unselected selects using w.exists_judges
  have ordered : (Step.looks steps).Pairwise Precedes := Step.pairwise_looks takes.ordered
  have holds : ∀ place, place ∈ Step.looks steps ↔ w.LooksAt p tree place := by
    intro place
    rw [Step.mem_looks, takes.look]
  have count := count_looks judges (Precedes.nodup ordered) holds
  have counts := tally_of_steps (p := p) tally steps
  have documents := documents_of_looks (p := p) unselected selects (Step.looks steps)
  rw [← takes.walk] at counts
  rw [← documents_of_steps, ← takes.walk] at documents
  have selected := mem_filter_looks (p := p) judges holds .selected
  constructor
  case documents => exact ⟨_, ordered.filter _, selected, documents⟩
  case distinct =>
    rw [paths_of_documents documents]
    refine List.Nodup.map_on ?_ ((Precedes.nodup ordered).filter _)
    intro place member other otherMember same
    exact looksAt_path_inj wellFormed ((selected place).mp member).1
      ((selected other).mp otherMember).1 same
  case matched =>
    rw [counts, Tally.of, count_eq_length_filter]
    exact documents.length_eq
  case scanned =>
    rw [counts]
    push_cast [Tally.of, ← count]
    rfl
  case ignored =>
    rw [counts]
    push_cast [Tally.of, ← count]
    rfl
  case folders =>
    rw [counts, encard_of_nodup (Step.nodup_enters takes.ordered)]
    · rfl
    · intro place
      rw [Step.mem_enters, takes.enter]
      rfl
  case errors =>
    rw [counts, ← count]
    rfl

/-- A walk from a folder ends, and finds what there is to be found below the folder. -/
theorem walk_finds (w : Walker) (root : Text) {p : Path} {entries : List (Text × Tree)}
    (wellFormed : w.disk.root.WellFormed) (expanded : w.disk.expand (Path.ofText root) = .ok p)
    (isFolder : w.disk.find? p.toText = some (.folder entries)) :
    ∃ walk, w.walk root = .ok walk ∧ w.Finds p (.folder entries) walk := by
  have started : w.walk root = .ok (w.walkFolder p (.folder entries)) := by
    rw [walk, expanded]
    dsimp only
    rw [Disk.look_of_find? isFolder]
    rfl
  exact ⟨_, started, finds_walkFolder (Disk.wellFormed_of_find? wellFormed isFolder) w p⟩

/-- A folder with a link to itself below it, a link to nowhere, and hidden, large and other
files. -/
def linkedEntries : List (Text × Tree) :=
  [(['b', '.', 'm', 'd'], .file []),
    (['a'], .folder [(['c', '.', 'o', 'r', 'g'], .file [0]), (['u', 'p'], .link ['/', 't'])]),
    (['.', 'h'], .folder [(['x', '.', 'm', 'd'], .file [])]),
    (['g', '.', 'm', 'd'], .link ['n', 'o', 'n', 'e']),
    (['f', '.', 'm', 'd'], .file [0, 0, 0]),
    (['n', '.', 't', 'x', 't'], .file []),
    (['A', '.', 'm', 'd'], .link ['b', '.', 'm', 'd']),
    (['.', 'x', '.', 'm', 'd'], .file [])]

def linkedWalker : Walker where
  disk := ⟨.folder [(['t'], .folder linkedEntries)], [], []⟩
  limits := { maxBytes := 2 }

theorem wellFormed_linked : linkedWalker.disk.root.WellFormed := by
  simp [linkedWalker, linkedEntries, Tree.wellFormed_folder_iff]
  and_intros
  all_goals exact .leaf rfl

theorem walk_finds_linked : ∃ walk, linkedWalker.walk ['/', 't'] = .ok walk ∧
    linkedWalker.Finds ⟨['/'], [['t']]⟩ (.folder linkedEntries) walk ∧
    walk.documents.map (·.path) = [['/', 't', '/', 'A', '.', 'm', 'd'],
      ['/', 't', '/', 'b', '.', 'm', 'd'], ['/', 't', '/', 'a', '/', 'c', '.', 'o', 'r', 'g']] ∧
    walk.tally = ⟨6, 3, 2, 2, 1⟩ := by
  have expanded : linkedWalker.disk.expand (Path.ofText ['/', 't']) = .ok ⟨['/'], [['t']]⟩ := rfl
  have isFolder : linkedWalker.disk.find? (Path.mk ['/'] [['t']]).toText =
      some (.folder linkedEntries) := rfl
  obtain ⟨walk, ran, finds⟩ := walk_finds linkedWalker ['/', 't'] wellFormed_linked expanded
    isFolder
  have outcome : (linkedWalker.walk ['/', 't']).map (fun walk => (walk.documents.map (·.path),
      walk.tally)) = .ok ([['/', 't', '/', 'A', '.', 'm', 'd'],
      ['/', 't', '/', 'b', '.', 'm', 'd'], ['/', 't', '/', 'a', '/', 'c', '.', 'o', 'r', 'g']],
      ⟨6, 3, 2, 2, 1⟩) := rfl
  rw [ran] at outcome
  obtain ⟨paths, counts⟩ := Prod.mk.inj (Except.ok.inj outcome)
  exact ⟨walk, ran, finds, paths, counts⟩

end Walker

end OutlineSearch
