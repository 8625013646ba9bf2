import Mathlib.Data.List.TakeWhile
import OutlineSearch.Proofs.Metadata

/-!
# Heading lines

A line is a heading exactly if it begins with markers and a space, whatever its title holds.
No such line can be taken for a timestamp or for a part of a drawer.
-/

namespace OutlineSearch

/-- A line begins with one or more markers followed by a space. -/
def Marked (kind : OutlineKind) (line : Text) : Prop :=
  ∃ depth, 1 ≤ depth ∧ List.replicate depth kind.marker ++ [' '] <+: line

theorem OutlineKind.marker_ne_space (kind : OutlineKind) : kind.marker ≠ ' ' := by
  cases kind <;> decide

theorem OutlineKind.marker_ne_colon (kind : OutlineKind) : kind.marker ≠ ':' := by
  cases kind <;> decide

theorem OutlineKind.isBlank_marker (kind : OutlineKind) :
    Text.isBlank kind.marker = false := by
  cases kind <;> decide

theorem OutlineKind.upperOfChar_marker (kind : OutlineKind) :
    Text.upperOfChar kind.marker = [kind.marker] := by
  cases kind <;> decide

/-- The markers of a line end where its first other character stands. -/
theorem replicate_marker_eq_takeWhile (kind : OutlineKind) (depth : Nat) (rest : Text) :
    (List.replicate depth kind.marker ++ ' ' :: rest).takeWhile (· == kind.marker) =
        List.replicate depth kind.marker ∧
      (List.replicate depth kind.marker ++ ' ' :: rest).dropWhile (· == kind.marker) =
        ' ' :: rest := by
  have allMarkers : ∀ c ∈ List.replicate depth kind.marker, (c == kind.marker) = true := by
    intro c member
    simpa using (List.mem_replicate.mp member).2
  have space : ¬((' ' == kind.marker) = true) := by
    simpa using kind.marker_ne_space.symm
  constructor
  · rw [List.takeWhile_append_of_pos allMarkers, List.takeWhile_cons_of_neg (by exact space),
      List.append_nil]
  · rw [List.dropWhile_append_of_pos allMarkers, List.dropWhile_cons_of_neg (by exact space)]

namespace Heading

/-- What a line looks like that is read as a heading. -/
theorem markers_of_ofLine? {kind : OutlineKind} {number : Nat} {line : Text}
    {heading : Heading} (read : ofLine? kind number line = some heading) :
    (∃ rest, line.dropWhile (· == kind.marker) = ' ' :: rest) ∧
      1 ≤ (line.takeWhile (· == kind.marker)).length ∧
      heading.depth = (line.takeWhile (· == kind.marker)).length := by
  unfold ofLine? at read
  split at read
  · rename_i rest behind
    by_cases noMarkers : (line.takeWhile (· == kind.marker)).isEmpty = true
    · simp only [noMarkers, if_true] at read
      cases read
    · simp only [noMarkers] at read
      cases read
      have nonempty : line.takeWhile (· == kind.marker) ≠ [] := by simpa using noMarkers
      exact ⟨⟨rest, behind⟩, List.length_pos_iff.mpr nonempty, rfl⟩
  · cases read

theorem isSome_ofLine?_iff (kind : OutlineKind) (number : Nat) (line : Text) :
    (ofLine? kind number line).isSome = true ↔ Marked kind line := by
  constructor
  · intro read
    obtain ⟨heading, read⟩ := Option.isSome_iff_exists.mp read
    obtain ⟨⟨rest, behind⟩, positive, -⟩ := markers_of_ofLine? read
    have onlyMarkers : line.takeWhile (· == kind.marker) =
        List.replicate (line.takeWhile (· == kind.marker)).length kind.marker := by
      rw [List.eq_replicate_iff]
      exact ⟨rfl, fun c member => by simpa using List.mem_takeWhile_imp member⟩
    have whole := List.takeWhile_append_dropWhile (p := (· == kind.marker)) (l := line)
    rw [behind, onlyMarkers] at whole
    exact ⟨_, positive, rest, by simpa using whole⟩
  · rintro ⟨depth, positive, rest, rfl⟩
    obtain ⟨markers, behind⟩ := replicate_marker_eq_takeWhile kind depth rest
    have nonempty : ¬(List.replicate depth kind.marker).isEmpty = true := by
      simpa using Nat.ne_of_gt positive
    simp [ofLine?, markers, behind, nonempty]

instance (kind : OutlineKind) (line : Text) : Decidable (Marked kind line) :=
  decidable_of_iff _ (isSome_ofLine?_iff kind 1 line)

theorem depth_pos_of_ofLine? {kind : OutlineKind} {number : Nat} {line : Text}
    {heading : Heading} (read : ofLine? kind number line = some heading) :
    1 ≤ heading.depth := by
  obtain ⟨-, positive, depth⟩ := markers_of_ofLine? read
  rwa [depth]

end Heading

namespace Marked

variable {kind : OutlineKind} {line : Text}

theorem exists_cons (marked : Marked kind line) : ∃ rest, line = kind.marker :: rest := by
  obtain ⟨depth, positive, rest, rfl⟩ := marked
  obtain ⟨more, rfl⟩ := Nat.exists_eq_add_of_le' positive
  exact ⟨_, by rw [List.replicate_succ]; rfl⟩

theorem trimLeft_eq (marked : Marked kind line) : line.trimLeft = line := by
  obtain ⟨rest, rfl⟩ := marked.exists_cons
  simp [Text.trimLeft, kind.isBlank_marker]

theorem upper_eq (marked : Marked kind line) :
    ∃ rest, line.trimLeft.upper = kind.marker :: rest := by
  obtain ⟨rest, equality⟩ := marked.exists_cons
  refine ⟨rest.flatMap Text.upperOfChar, ?_⟩
  rw [marked.trimLeft_eq, equality, Text.upper, List.flatMap_cons, kind.upperOfChar_marker]
  rfl

theorem not_beginsWith_colon (marked : Marked kind line) {mark : String} {letters : Text}
    (colon : mark.toList = ':' :: letters) : Property.beginsWith mark line = false := by
  obtain ⟨rest, upper⟩ := marked.upper_eq
  have differs : ':' ≠ kind.marker := kind.marker_ne_colon.symm
  rw [Property.beginsWith, upper, colon]
  simp [List.isPrefixOf, differs]

theorem not_labelled (marked : Marked kind line) : Timestamp.isLabelled line = false := by
  obtain ⟨rest, upper⟩ := marked.upper_eq
  rw [Timestamp.isLabelled, upper]
  cases kind <;> rfl

theorem not_opensDrawer (marked : Marked kind line) : Property.opensDrawer line = false :=
  marked.not_beginsWith_colon rfl

theorem not_closesDrawer (marked : Marked kind line) :
    Property.closesDrawer line = false :=
  marked.not_beginsWith_colon rfl

theorem not_isEntry (marked : Marked kind line) : Property.isEntry line = false := by
  obtain ⟨rest, equality⟩ := marked.exists_cons
  have refused : Property.parse line = .error ⟨line.trim⟩ := by
    rw [Property.parse, marked.trimLeft_eq, equality]
    cases kind <;> rfl
  simp [Property.isEntry, refused, Except.toOption]

end Marked

end OutlineSearch
