import OutlineSearch.Proofs.Yaml.Decimal
import OutlineSearch.Yaml.Style

/-!
# Places in a text

What is read off a text is a part in front of the rest, and the place behind it is as many
characters further on.  Its column and its line are known for a part that stands on one line,
and for the end of a line with the spaces in front of the next one.
-/

namespace OutlineSearch.Yaml

/-- A character that can be seen, or a space. -/
def IsInline (c : Char) : Prop := 0x20 ≤ c.toNat ∧ c.toNat ≤ 0x7E

instance (c : Char) : Decidable (IsInline c) := inferInstanceAs (Decidable (_ ∧ _))

theorem isSimple_iff (c : Char) : Style.isSimple c = true ↔ c = '\n' ∨ IsInline c := by
  simp [Style.isSimple, IsInline]

theorem isInline_of_isDigit {c : Char} (digit : c.isDigit = true) : IsInline c := by
  have range := (Text.isDigit_iff c).mp digit
  constructor <;> omega

theorem isInline_of_mem_spaces {count : Nat} {c : Char} (member : c ∈ List.replicate count ' ') :
    IsInline c := by
  rw [(List.mem_replicate.mp member).2]
  decide

namespace IsInline

variable {c : Char} (visible : IsInline c)

include visible

theorem ne_of_toNat {d : Char} (outside : d.toNat < 0x20 ∨ 0x7E < d.toNat) : c ≠ d := by
  rintro rfl
  have low := visible.1
  have high := visible.2
  omega

theorem isBreak_eq_false : isBreak c = false := by
  have notFeed := visible.ne_of_toNat (d := '\n') (by decide)
  have notReturn := visible.ne_of_toNat (d := '\r') (by decide)
  have high := visible.2
  simp only [isBreak, Bool.or_eq_false_iff, beq_eq_false_iff_ne]
  exact ⟨⟨⟨⟨notFeed, notReturn⟩, by omega⟩, by omega⟩, by omega⟩

theorem isWhite_eq : isWhite c = (c == ' ') := by
  have notTab := visible.ne_of_toNat (d := '\t') (by decide)
  simp [isWhite, notTab]

theorem ne_byteOrderMark : (c == byteOrderMark) = false := by
  rw [beq_eq_false_iff_ne]
  exact visible.ne_of_toNat (by decide)

theorem isAllowed_eq_true : isAllowed c = true := by
  have low := visible.1
  have high := visible.2
  simp [isAllowed, low, high]

theorem endsWord_eq : endsWord (some c) = (c == ' ') := by
  rw [endsWord, visible.isWhite_eq, visible.isBreak_eq_false, Bool.or_false]

end IsInline

theorem isSimple_of_isInline {t : Text} (visible : ∀ c ∈ t, IsInline c) :
    ∀ c ∈ t, Style.isSimple c = true :=
  fun c member => (isSimple_iff c).mpr (.inr (visible c member))

namespace Source

variable {s : Source} {t r : Text}

theorem rest_next (s : Source) : s.next.rest = s.rest.tail := by
  unfold next
  split
  · rename_i empty
    rw [empty]
    rfl
  · rename_i c rest shape
    rw [shape]
    dsimp only [List.tail_cons]
    split
    · rfl
    · split <;> rfl

theorem rest_skip (s : Source) (n : Nat) : (s.skip n).rest = s.rest.drop n := by
  induction n generalizing s with
  | zero => rfl
  | succ n induction => rw [skip, induction, rest_next, List.drop_tail]

theorem skip_add (s : Source) (m n : Nat) : s.skip (m + n) = (s.skip m).skip n := by
  induction m generalizing s with
  | zero => rw [Nat.zero_add, skip]
  | succ m induction => rw [Nat.add_right_comm, skip, induction, skip]

theorem skip_succ (s : Source) (n : Nat) : s.skip (n + 1) = s.next.skip n := rfl

theorem rest_skip_append (split : s.rest = t ++ r) : (s.skip t.length).rest = r := by
  rw [rest_skip, split, List.drop_left]

theorem rest_next_cons {c : Char} (split : s.rest = c :: r) : s.next.rest = r := by
  rw [rest_next, split, List.tail_cons]

theorem peek_append_cons {c : Char} (split : s.rest = c :: r) : s.peek = some c := by
  rw [peek, split, List.head?_cons]

theorem isAt_cons {c : Char} (split : s.rest = c :: r) (d : Char) : s.isAt d = (c == d) := by
  rw [isAt, peek, split, List.head?_cons]
  rfl

/-! ## Index, line and column -/

theorem line_le_next (s : Source) : s.line ≤ s.next.line := by
  unfold next
  split
  · exact Nat.le_refl _
  · split
    · exact Nat.le_succ _
    · split <;> exact Nat.le_refl _

theorem line_le_skip (s : Source) (n : Nat) : s.line ≤ (s.skip n).line := by
  induction n generalizing s with
  | zero => exact Nat.le_refl _
  | succ n induction => exact (line_le_next s).trans (induction s.next)

theorem next_of_isInline {c : Char} (split : s.rest = c :: r) (visible : IsInline c) :
    s.next = ⟨r, s.column + 1, s.line, s.index + 1⟩ := by
  rw [next, split]
  simp only [visible.isBreak_eq_false, visible.ne_byteOrderMark, Bool.false_and,
    if_neg Bool.false_ne_true]

theorem next_lineFeed (split : s.rest = '\n' :: r) : s.next = ⟨r, 0, s.line + 1, s.index + 1⟩ := by
  rw [next, split]
  rfl

theorem skip_of_isInline (split : s.rest = t ++ r) (visible : ∀ c ∈ t, IsInline c) :
    s.skip t.length = ⟨r, s.column + t.length, s.line, s.index + t.length⟩ := by
  induction t generalizing s with
  | nil => rw [← List.nil_append r, ← split]; rfl
  | cons c rest induction =>
      rw [List.forall_mem_cons] at visible
      rw [List.length_cons, skip, induction (rest_next_cons split) visible.2,
        next_of_isInline split visible.1]
      simp only [Source.mk.injEq, true_and]
      omega

/-- The place behind the end of a line and the spaces in front of the next one. -/
theorem skip_lineFeed {indent : Nat} (split : s.rest = '\n' :: List.replicate indent ' ' ++ r) :
    s.skip (indent + 1) = ⟨r, indent, s.line + 1, s.index + (indent + 1)⟩ := by
  have behind := next_lineFeed (s := s) (r := List.replicate indent ' ' ++ r) split
  have spaces := skip_of_isInline (s := s.next) (t := List.replicate indent ' ') (r := r)
    (rest_next_cons split) fun c => isInline_of_mem_spaces
  rw [List.length_replicate] at spaces
  rw [skip, spaces, behind]
  simp only [Source.mk.injEq, true_and]
  omega

/-! ## Taking characters -/

theorem takeWhile_append {p : Char → Bool} (split : s.rest = t ++ r)
    (all : ∀ c ∈ t, p c = true) (stop : ∀ c ∈ r.head?, p c = false) :
    s.takeWhile p = (t, s.skip t.length) := by
  rw [takeWhile, split, (takeWhile_append_stop all stop).1]

theorem dropSpaces_append {count : Nat} (split : s.rest = List.replicate count ' ' ++ r)
    (stop : r.head? ≠ some ' ') : s.dropSpaces = s.skip count := by
  have all : ∀ c ∈ List.replicate count ' ', (c == ' ') = true :=
    fun c member => beq_iff_eq.mpr (List.mem_replicate.mp member).2
  have other : ∀ c ∈ r.head?, (c == ' ') = false := by
    intro c first
    rw [beq_eq_false_iff_ne]
    rintro rfl
    exact stop first
  rw [dropSpaces, dropWhile, takeWhile_append split all other, List.length_replicate]

theorem takeBreak_lineFeed (split : s.rest = '\n' :: r) : s.takeBreak = (['\n'], s.next) := by
  rw [takeBreak, split]
  rfl

/-- Only a line that begins with a dash or a point separates documents. -/
theorem isSeparator_eq_false (noDash : s.rest.head? ≠ some '-')
    (noPoint : s.rest.head? ≠ some '.') :
    s.isSeparator = false := by
  unfold isSeparator
  cases shape : s.rest with
  | nil => rfl
  | cons c rest =>
      rw [shape, List.head?_cons, Ne, Option.some_inj] at noDash noPoint
      simp [Ne.symm noDash, Ne.symm noPoint]

end Source

end OutlineSearch.Yaml
