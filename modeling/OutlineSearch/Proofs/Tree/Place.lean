import Mathlib.Data.List.Sort
import OutlineSearch.Proofs.Pieces
import OutlineSearch.Proofs.TextOrder
import OutlineSearch.Tree.Walk

/-!
# Places in a tree

A place is a sequence of names, read from some folder on.  Places are in the order in which a
walk comes to them: the files of a folder by their names, and after them what is in its
subfolders, subfolder by subfolder.
-/

namespace OutlineSearch

namespace Path

/-- The path of a place below a folder. -/
def below (p : Path) (place : List Text) : Path := { p with names := p.names ++ place }

@[simp]
theorem below_nil (p : Path) : p.below [] = p := by
  simp [below]

@[simp]
theorem child_below (p : Path) (name : Text) (place : List Text) :
    (p.child name).below place = p.below (name :: place) := by
  simp [below, child]

@[simp]
theorem below_child (p : Path) (place : List Text) (name : Text) :
    (p.below place).child name = p.below (place ++ [name]) := by
  simp [below, child]

theorem toText_below (p : Path) {place : List Text} (nonempty : place ≠ []) :
    (p.below place).toText = p.root ++ Text.join ['/'] (p.names ++ place) := by
  simp [toText, below, nonempty]

/-- Different places have different paths. -/
theorem toText_below_inj (p : Path) {place other : List Text} (left : place ≠ [])
    (right : other ≠ []) (leftAbsent : ∀ name ∈ place, '/' ∉ name)
    (rightAbsent : ∀ name ∈ other, '/' ∉ name)
    (same : (p.below place).toText = (p.below other).toText) : place = other := by
  rw [toText_below p left, toText_below p right, List.append_cancel_left_eq] at same
  by_cases top : p.names = []
  · rw [top, List.nil_append, List.nil_append] at same
    exact Text.join_inj left right leftAbsent rightAbsent same
  · rw [Text.join_append _ top left, Text.join_append _ top right,
      List.append_cancel_left_eq] at same
    exact Text.join_inj left right leftAbsent rightAbsent same

end Path

/-! ## Order -/

/-- The order in which a walk comes to what is at two places. -/
inductive Precedes : List Text → List Text → Prop where
  | files {name other : Text} : name < other → Precedes [name] [other]
  | fileFirst {name folder next : Text} {rest : List Text} :
      Precedes [name] (folder :: next :: rest)
  | folders {folder other next another : Text} {rest more : List Text} :
      folder < other → Precedes (folder :: next :: rest) (other :: another :: more)
  | inside {folder : Text} {place other : List Text} :
      Precedes place other → Precedes (folder :: place) (folder :: other)

theorem Precedes.irrefl (place : List Text) : ¬Precedes place place := by
  intro before
  induction place with
  | nil => cases before
  | cons name rest induction =>
      cases before with
      | files less => exact lt_irrefl _ less
      | folders less => exact lt_irrefl _ less
      | inside before => exact induction before

theorem Precedes.nodup {places : List (List Text)} (ordered : places.Pairwise Precedes) :
    places.Nodup := by
  refine ordered.imp ?_
  intro place other before same
  rw [same] at before
  exact irrefl other before

section ByName

variable {α β : Type}

/-- One named thing may stand in front of another. -/
def NameLE (x y : Text × α) : Prop := x.1.le y.1 = true

instance : DecidableRel (@NameLE α) :=
  fun x y => inferInstanceAs (Decidable (x.1.le y.1 = true))

theorem nameLE_iff (x y : Text × α) : NameLE x y ↔ x.1 ≤ y.1 := Text.le_iff x.1 y.1

instance : Std.Total (@NameLE α) where
  total x y := by
    rw [nameLE_iff, nameLE_iff]
    exact le_total x.1 y.1

instance : IsTrans (Text × α) NameLE where
  trans x y z := by
    rw [nameLE_iff, nameLE_iff, nameLE_iff]
    exact le_trans

namespace Walker

theorem insertByName_eq (x : Text × α) (xs : List (Text × α)) :
    insertByName x xs = xs.orderedInsert NameLE x := by
  induction xs with
  | nil => rfl
  | cons y rest induction =>
      rw [insertByName, List.orderedInsert, induction]
      rfl

theorem byName_eq (xs : List (Text × α)) : byName xs = xs.insertionSort NameLE := by
  induction xs with
  | nil => rfl
  | cons x rest induction =>
      rw [byName, List.foldr_cons, ← byName, insertByName_eq, induction]
      rfl

theorem byName_perm (xs : List (Text × α)) : (byName xs).Perm xs := by
  rw [byName_eq]
  exact List.perm_insertionSort NameLE xs

theorem byName_map (f : Text × α → β) (xs : List (Text × α)) :
    byName (xs.map fun x => (x.1, f x)) = (byName xs).map fun x => (x.1, f x) := by
  rw [byName_eq, byName_eq]
  have kept : ∀ x ∈ xs, ∀ y ∈ xs, NameLE x y ↔ NameLE (x.1, f x) (y.1, f y) :=
    fun _ _ _ _ => Iff.rfl
  exact (List.map_insertionSort NameLE NameLE (fun x => (x.1, f x)) xs kept).symm

theorem byName_pairwise {xs : List (Text × α)} (distinct : (xs.map (·.1)).Nodup) :
    (byName xs).Pairwise fun x y => x.1 < y.1 := by
  have ordered : (byName xs).Pairwise NameLE := by
    rw [byName_eq]
    exact List.pairwise_insertionSort NameLE xs
  have different : (byName xs).Pairwise fun x y => x.1 ≠ y.1 := by
    have names : ((byName xs).map (·.1)).Nodup := ((byName_perm xs).map _).nodup_iff.mpr distinct
    exact List.pairwise_map.mp names
  refine (ordered.and different).imp ?_
  intro x y both
  exact lt_of_le_of_ne ((nameLE_iff x y).mp both.1) both.2

end Walker

end ByName

/-! ## Well-formed trees -/

namespace Tree

/-- No two entries of a folder have the same name, and no name has a slash in it. -/
inductive WellFormed : Tree → Prop where
  | leaf {t : Tree} : t.isFolder = false → WellFormed t
  | folder {entries : List (Text × Tree)} : (entries.map (·.1)).Nodup →
      (∀ entry ∈ entries, '/' ∉ entry.1) → (∀ entry ∈ entries, WellFormed entry.2) →
      WellFormed (.folder entries)

theorem wellFormed_folder_iff (entries : List (Text × Tree)) : (folder entries).WellFormed ↔
    (entries.map (·.1)).Nodup ∧ (∀ entry ∈ entries, '/' ∉ entry.1) ∧
      ∀ entry ∈ entries, entry.2.WellFormed := by
  constructor
  · intro wellFormed
    cases wellFormed with
    | leaf isLeaf => cases isLeaf
    | folder distinct named inside => exact ⟨distinct, named, inside⟩
  · rintro ⟨distinct, named, inside⟩
    exact .folder distinct named inside

theorem WellFormed.at? {t u : Tree} {place : List Text} (wellFormed : t.WellFormed)
    (found : t.at? place = some u) : u.WellFormed := by
  induction place generalizing t with
  | nil =>
      cases found
      exact wellFormed
  | cons name rest induction =>
      rw [Tree.at?, Option.bind_eq_some_iff] at found
      obtain ⟨inner, isChild, found⟩ := found
      cases t with
      | folder entries =>
          obtain ⟨-, -, inside⟩ := (wellFormed_folder_iff entries).mp wellFormed
          have member : (name, inner) ∈ entries := by
            obtain ⟨before, behind, split, -⟩ := List.lookup_eq_some_iff.mp isChild
            rw [split]
            simp
          exact induction (inside (name, inner) member) found
      | _ => cases isChild

end Tree

namespace Disk

section Follow

variable {d : Disk} {found : List Text} {t : Tree}

theorem at?_of_followNames {jump : List Text → List Text → Except FileError (List Text × Tree)}
    (lands : ∀ place names, jump place names = .ok (found, t) → d.root.at? found = some t)
    (place names : List Text) (reached : d.followNames jump place names = .ok (found, t)) :
    d.root.at? found = some t := by
  fun_induction d.followNames jump place names
  case case7 => exact lands _ _ reached
  all_goals simp_all

theorem at?_of_follow (links : Nat) (place names : List Text)
    (reached : d.follow links place names = .ok (found, t)) : d.root.at? found = some t := by
  induction links generalizing place names with
  | zero => exact at?_of_followNames (by simp) place names reached
  | succ links induction => exact at?_of_followNames induction place names reached

end Follow

theorem at?_of_resolve {d : Disk} {path : Text} {found : List Text} {t : Tree}
    (reached : d.resolve path = .ok (found, t)) : d.root.at? found = some t := by
  unfold resolve at reached
  split at reached
  · cases reached
  · split at reached
    · cases reached
    · exact at?_of_follow _ _ _ reached

theorem look_of_find? {d : Disk} {path : Text} {t : Tree} (found : d.find? path = some t) :
    d.look path = .ok (some t) := by
  unfold find? at found
  unfold look
  cases reached : d.resolve path with
  | ok outcome =>
      rw [reached] at found
      cases found
      rfl
  | error e =>
      rw [reached] at found
      cases found

theorem wellFormed_of_find? {d : Disk} {path : Text} {t : Tree} (wellFormed : d.root.WellFormed)
    (found : d.find? path = some t) : t.WellFormed := by
  unfold find? at found
  split at found
  case h_1 place u reached =>
    cases found
    exact wellFormed.at? (at?_of_resolve reached)
  case h_2 => cases found

end Disk

end OutlineSearch
