import OutlineSearch.Text.Basic

/-!
# Joined texts and their pieces

Pieces in which the separator does not occur are found again when their joined text is split.
-/

namespace OutlineSearch.Text

theorem join_cons (separator first : Text) {rest : List Text} (more : rest ≠ []) :
    join separator (first :: rest) = first ++ separator ++ join separator rest := by
  cases rest with
  | nil => exact absurd rfl more
  | cons second rest => rfl

theorem join_append (separator : Text) {front back : List Text} (before : front ≠ [])
    (behind : back ≠ []) :
    join separator (front ++ back) = join separator front ++ separator ++ join separator back := by
  induction front with
  | nil => exact absurd rfl before
  | cons first rest induction =>
      rw [List.cons_append, join_cons separator first (by simp [behind])]
      cases rest with
      | nil => rfl
      | cons second rest =>
          rw [induction (by simp), join_cons separator first (by simp)]
          simp

/-- What stands in a joined text stands in the separator or in one of the pieces. -/
theorem mem_join {separator : Text} {pieces : List Text} {c : Char}
    (member : c ∈ join separator pieces) : c ∈ separator ∨ ∃ piece ∈ pieces, c ∈ piece := by
  induction pieces with
  | nil => cases member
  | cons first rest induction =>
      cases rest with
      | nil => exact .inr ⟨first, List.mem_cons_self, member⟩
      | cons second rest =>
          rw [join_cons _ _ (by simp), List.mem_append, List.mem_append] at member
          rcases member with (inFirst | inSeparator) | inRest
          · exact .inr ⟨first, List.mem_cons_self, inFirst⟩
          · exact .inl inSeparator
          · rcases induction inRest with inSeparator | ⟨piece, isPiece, inPiece⟩
            · exact .inl inSeparator
            · exact .inr ⟨piece, List.mem_cons_of_mem first isPiece, inPiece⟩

section Split

variable {separator : Char}

theorem splitOnChar_of_notMem {text : Text} (absent : separator ∉ text) :
    splitOnChar separator text = [text] := by
  induction text with
  | nil => rfl
  | cons c rest induction =>
      rw [List.mem_cons, not_or] at absent
      rw [splitOnChar, if_neg (Ne.symm absent.1), induction absent.2]

theorem splitOnChar_piece_append {piece : Text} (absent : separator ∉ piece) (rest : Text) :
    splitOnChar separator (piece ++ separator :: rest) =
      piece :: splitOnChar separator rest := by
  induction piece with
  | nil => simp [splitOnChar]
  | cons c more induction =>
      rw [List.mem_cons, not_or] at absent
      rw [List.cons_append, splitOnChar, if_neg (Ne.symm absent.1), induction absent.2]

theorem splitOnChar_join {pieces : List Text} (nonempty : pieces ≠ [])
    (absent : ∀ piece ∈ pieces, separator ∉ piece) :
    splitOnChar separator (join [separator] pieces) = pieces := by
  induction pieces with
  | nil => exact absurd rfl nonempty
  | cons first rest induction =>
      have inFirst := absent first List.mem_cons_self
      cases rest with
      | nil => exact splitOnChar_of_notMem inFirst
      | cons second rest =>
          have inRest : ∀ piece ∈ second :: rest, separator ∉ piece :=
            fun piece member => absent piece (List.mem_cons_of_mem first member)
          rw [join_cons _ _ (by simp), List.append_assoc, List.singleton_append,
            splitOnChar_piece_append inFirst, induction (by simp) inRest]

theorem splitOnChar_ne_nil (separator : Char) (text : Text) : splitOnChar separator text ≠ [] := by
  cases text with
  | nil => simp [splitOnChar]
  | cons c rest =>
      rw [splitOnChar]
      split
      · simp
      · split <;> simp

theorem join_splitOnChar (separator : Char) (text : Text) :
    join [separator] (splitOnChar separator text) = text := by
  induction text with
  | nil => rfl
  | cons c rest induction =>
      have pieces := splitOnChar_ne_nil separator rest
      rw [splitOnChar]
      split
      · rename_i isSeparator
        rw [join_cons _ _ pieces, induction, isSeparator]
        rfl
      · split
        · rename_i none
          exact (pieces none).elim
        · rename_i piece more split
          rw [split] at induction
          cases more with
          | nil => exact congrArg (c :: ·) induction
          | cons second more =>
              rw [join_cons _ _ (by simp)] at induction ⊢
              exact congrArg (c :: ·) induction

theorem join_inj {pieces others : List Text} (left : pieces ≠ []) (right : others ≠ [])
    (leftAbsent : ∀ piece ∈ pieces, separator ∉ piece)
    (rightAbsent : ∀ piece ∈ others, separator ∉ piece)
    (same : join [separator] pieces = join [separator] others) : pieces = others := by
  rw [← splitOnChar_join left leftAbsent, same, splitOnChar_join right rightAbsent]

end Split

end OutlineSearch.Text
