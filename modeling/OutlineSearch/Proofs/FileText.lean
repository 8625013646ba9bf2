import OutlineSearch.Text.Lines

/-!
# Lines and the text of a file

Lines that hold no line terminators themselves are found again in the text of a file, whichever
terminator ends them, and whether or not the last one has it.
-/

namespace OutlineSearch

/-- The ways in which a file can end its lines. -/
inductive LineEnd where
  | lineFeed
  | carriageReturn
  | both
deriving Repr, DecidableEq

namespace LineEnd

/-- What stands at the end of a line. -/
def text : LineEnd → Text
  | lineFeed => ['\n']
  | carriageReturn => ['\r']
  | both => ['\r', '\n']

/-- The text of a file with lines that all end in the same way, except that the last one may go
without its terminator. -/
def fileText (e : LineEnd) (closed : Bool) : List Text → Text
  | [] => []
  | [last] => if closed then last ++ e.text else last
  | line :: next :: rest => line ++ e.text ++ fileText e closed (next :: rest)

end LineEnd

namespace Text

/-- A line of a file: no terminator stands in it. -/
def IsLine (line : Text) : Prop := '\r' ∉ line ∧ '\n' ∉ line

instance (line : Text) : Decidable line.IsLine :=
  inferInstanceAs (Decidable ('\r' ∉ line ∧ '\n' ∉ line))

/-! ## Terminators -/

theorem normalizeNewlines_cons {c : Char} (noReturn : c ≠ '\r') (rest : Text) :
    normalizeNewlines (c :: rest) = c :: normalizeNewlines rest := by
  rw [normalizeNewlines, if_neg noReturn]
  exact fun _ isReturn _ => noReturn isReturn

theorem normalizeNewlines_append {line : Text} (noReturn : '\r' ∉ line) (rest : Text) :
    normalizeNewlines (line ++ rest) = line ++ normalizeNewlines rest := by
  induction line with
  | nil => rfl
  | cons c more induction =>
      rw [List.mem_cons, not_or] at noReturn
      rw [List.cons_append, normalizeNewlines_cons (Ne.symm noReturn.1), induction noReturn.2]
      rfl

theorem normalizeNewlines_of_notMem {text : Text} (absent : '\r' ∉ text) :
    text.normalizeNewlines = text := by
  have whole := normalizeNewlines_append absent []
  simpa [normalizeNewlines] using whole

/-- A carriage return would make one terminator with a line feed behind it. -/
theorem normalizeNewlines_terminator {e : LineEnd} {rest : Text}
    (apart : e = .carriageReturn → rest.head? ≠ some '\n') :
    normalizeNewlines (e.text ++ rest) = '\n' :: normalizeNewlines rest := by
  cases e with
  | lineFeed => exact normalizeNewlines_cons (by decide) rest
  | both => rfl
  | carriageReturn =>
      have noFeed := apart rfl
      rw [LineEnd.text, List.singleton_append, normalizeNewlines, if_pos rfl]
      rintro more - rfl
      exact noFeed rfl

end Text

namespace LineEnd

variable {e : LineEnd} {closed : Bool} {line : Text} {lines : List Text}

/-- Every line but the last of a file that is not closed has its terminator. -/
theorem fileText_cons (e : LineEnd) (line : Text) (ended : closed = true ∨ lines ≠ []) :
    e.fileText closed (line :: lines) = line ++ (e.text ++ e.fileText closed lines) := by
  cases lines with
  | nil =>
      have isClosed : closed = true := ended.resolve_right fun more => more rfl
      simp only [fileText, isClosed, if_true, List.append_nil]
  | cons next rest => rw [fileText, List.append_assoc]

/-- A file is gone through line by line; at the end there may be a line without terminator. -/
theorem lines_induction {motive : List Text → Prop} (closed : Bool) (nil : motive [])
    (last : ∀ line, closed = false → motive [line])
    (cons : ∀ line lines, closed = true ∨ lines ≠ [] → motive lines → motive (line :: lines))
    (lines : List Text) : motive lines := by
  induction lines with
  | nil => exact nil
  | cons line rest induction =>
      by_cases ended : closed = true ∨ rest ≠ []
      · exact cons line rest ended induction
      · rw [not_or, Bool.not_eq_true, Ne, Decidable.not_not] at ended
        rw [ended.2]
        exact last line ended.1

theorem head?_append_of_isLine (plain : line.IsLine) (rest : Text)
    (apart : rest.head? ≠ some '\n') : (line ++ rest).head? ≠ some '\n' := by
  cases line with
  | nil => exact apart
  | cons c more =>
      rintro begins
      obtain rfl := Option.some.inj begins
      exact plain.2 List.mem_cons_self

/-- No line feed begins the text of a file that ends its lines with carriage returns. -/
theorem head?_fileText (plain : ∀ line ∈ lines, line.IsLine) :
    (fileText carriageReturn closed lines).head? ≠ some '\n' := by
  induction lines using lines_induction closed with
  | nil => exact nofun
  | last line isOpen =>
      rw [fileText, isOpen]
      simpa using head?_append_of_isLine (plain line List.mem_cons_self) [] nofun
  | cons line rest ended =>
      rw [fileText_cons _ _ ended]
      exact head?_append_of_isLine (plain line List.mem_cons_self) _ (by simp [text])

theorem normalizeNewlines_fileText (plain : ∀ line ∈ lines, line.IsLine) :
    (e.fileText closed lines).normalizeNewlines = lineFeed.fileText closed lines := by
  induction lines using lines_induction closed with
  | nil => rfl
  | last line isOpen =>
      rw [fileText, fileText, isOpen]
      exact Text.normalizeNewlines_of_notMem (plain line List.mem_cons_self).1
  | cons line rest ended induction =>
      rw [List.forall_mem_cons] at plain
      rw [fileText_cons e line ended, fileText_cons lineFeed line ended,
        Text.normalizeNewlines_append plain.1.1, Text.normalizeNewlines_terminator,
        induction plain.2]
      · rfl
      · rintro rfl
        exact head?_fileText plain.2

end LineEnd

namespace Text

/-! ## Lines -/

theorem consLine_append (line : Text) (first : Text) (rest : List Text) :
    line.foldr consLine (first :: rest) = (line ++ first) :: rest := by
  induction line with
  | nil => rfl
  | cons c more induction =>
      rw [List.foldr_cons, induction]
      rfl

theorem splitLines_append {line : Text} (noFeed : '\n' ∉ line) (rest : Text) :
    splitLines (line ++ rest) = line.foldr consLine (splitLines rest) := by
  induction line with
  | nil => rfl
  | cons c more induction =>
      rw [List.mem_cons, not_or] at noFeed
      rw [List.cons_append, splitLines, if_neg (Ne.symm noFeed.1), induction noFeed.2]
      rfl

theorem splitLines_terminated {line : Text} (noFeed : '\n' ∉ line) (rest : Text) :
    splitLines (line ++ '\n' :: rest) = line :: splitLines rest := by
  rw [splitLines_append noFeed, splitLines, if_pos rfl, consLine_append, List.append_nil]

theorem splitLines_of_notMem {line : Text} (noFeed : '\n' ∉ line) (nonempty : line ≠ []) :
    splitLines line = [line] := by
  obtain ⟨front, c, rfl⟩ : ∃ front c, line = front ++ [c] :=
    ⟨_, _, (List.dropLast_concat_getLast nonempty).symm⟩
  rw [List.mem_append, List.mem_singleton, not_or] at noFeed
  rw [splitLines_append noFeed.1, splitLines, if_neg (Ne.symm noFeed.2)]
  exact consLine_append front [c] []

end Text

namespace LineEnd

variable {e : LineEnd} {closed : Bool} {lines : List Text}

theorem splitLines_fileText (plain : ∀ line ∈ lines, line.IsLine)
    (last : closed = true ∨ lines.getLast? ≠ some []) :
    Text.splitLines (lineFeed.fileText closed lines) = lines := by
  induction lines using lines_induction closed with
  | nil => rfl
  | last line isOpen =>
      have nonempty : line ≠ [] := by simpa [isOpen] using last
      rw [fileText, isOpen]
      exact Text.splitLines_of_notMem (plain line List.mem_cons_self).2 nonempty
  | cons line rest ended induction =>
      rw [List.forall_mem_cons] at plain
      have lastOfRest : closed = true ∨ rest.getLast? ≠ some [] := by
        rcases ended with isClosed | more
        · exact .inl isClosed
        · rwa [List.getLast?_cons_of_ne_nil more] at last
      rw [fileText_cons lineFeed line ended]
      exact (Text.splitLines_terminated plain.1.2 _).trans
        (congrArg (line :: ·) (induction plain.2 lastOfRest))

/-- The lines of a file are found in its text. -/
theorem lines_fileText (plain : ∀ line ∈ lines, line.IsLine)
    (last : closed = true ∨ lines.getLast? ≠ some []) :
    Text.lines (e.fileText closed lines) = lines := by
  rw [Text.lines, normalizeNewlines_fileText plain, splitLines_fileText plain last]

end LineEnd

end OutlineSearch
