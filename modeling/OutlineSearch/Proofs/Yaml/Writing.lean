import OutlineSearch.Proofs.Yaml.Composing

/-!
# Writing sections

A section is written as its text, and the lines of all sections, with a comment above each and
an empty line behind it, are the text of a file.
-/

namespace OutlineSearch.Yaml

variable {limit : Option Nat}

theorem isSimpleKey_of_isKeyName {name : Text} (key : isKeyName name = true) :
    isSimpleKey (.text name) = true := by
  have word := (isKey_of_isKeyName key).word
  have noBreak : name.any isBreak = false := by
    rw [List.any_eq_false]
    intro c member
    rw [(word.visible c member).1.isBreak_eq_false]
    exact Bool.false_ne_true
  simp only [isKeyName, Bool.and_eq_true] at key
  have nonempty : name.isEmpty = false := by simpa using word.nonempty
  rw [isSimpleKey, nonempty, noBreak, key.2]
  rfl

theorem entriesText_cons {name : Text} (key : isKeyName name = true) (isOpen : Bool)
    (indent column : Nat)
    (value : Data) (entries : List (Data × Data)) :
    entriesText isOpen indent column ((.text name, value) :: entries) =
      lead isOpen indent column ++
        (name ++ ':' :: valueText true false indent (indent + name.length + 1) value) ++
        entriesText false indent 0 entries := by
  have written : keyText indent (.text name) = name :=
    writeScalar_of_isKeyName key (Nat.succ_pos (indent + 1)) indent
  rw [entriesText, if_pos (isSimpleKey_of_isKeyName key), written]

theorem entriesText_fields {fields : List (Text × Data)}
    (keys : ∀ field ∈ fields, isKeyName field.1 = true) (column : Nat) :
    entriesText false 2 column (fields.map textEntry) =
      partsText (fun _ => nextLine) fieldText fields := by
  induction fields generalizing column with
  | nil => rw [List.map_nil, entriesText, Lexer.partsText_nil]
  | cons field fields induction =>
      rw [List.forall_mem_cons] at keys
      rw [List.map_cons, textEntry, entriesText_cons keys.1, induction keys.2, Lexer.partsText_cons,
        List.append_assoc]
      rfl

/-- A section is written as its text. -/
theorem render_section {x : Section} (proper : x.Proper limit) :
    render [textEntry (x.name, x.data)] = x.text := by
  obtain ⟨first, rest, fields⟩ := List.exists_cons_of_ne_nil proper.someFields
  have value (column : Nat) : valueText true false 0 column x.data =
      partsText (fun _ => nextLine) fieldText x.fields := by
    rw [Section.data, ← entriesText_fields
      (fun field member => (proper.fields field member).1) column,
      fields, List.map_cons, valueText]
    exact List.cons_ne_nil _ _
  rw [render, textEntry, entriesText_cons proper.name, value, entriesText, List.append_nil]
  rfl

theorem join_lines (lines : List Text) : Text.join ['\n'] (lines ++ [[]]) = gapText lines 0 := by
  induction lines with
  | nil => rfl
  | cons line lines induction =>
      have more := gapText_cons line lines 0 []
      rw [List.append_nil, List.append_nil] at more
      rw [more, ← induction]
      cases lines with
      | nil => simp [Text.join]
      | cons next lines => simp [Text.join]

theorem gapText_append (front back : List Text) :
    gapText (front ++ back) 0 = gapText front 0 ++ gapText back 0 := by
  simp [gapText]

/-- The lines of a section: its comment, its text and an empty line. -/
def Section.lines (x : Section) : List Text := ['#' :: x.comment, x.text, []]

theorem flatMap_sectionLines (first : Section) (rest : List Section) :
    (first :: rest).flatMap Section.lines = ('#' :: first.comment) ::
      ((first.text :: rest.flatMap fun x => [[], '#' :: x.comment, x.text]) ++ [[]]) := by
  induction rest generalizing first with
  | nil => rfl
  | cons second rest induction =>
      rw [List.flatMap_cons, induction second]
      rfl

theorem gapText_sections (first : Section) (rest : List Section) :
    gapText (first.text :: rest.flatMap fun x => [[], '#' :: x.comment, x.text]) 0 =
      (first.text ++ partsText Section.gap Section.text rest) ++ gapText [[]] 0 := by
  induction rest generalizing first with
  | nil => simp [gapText]
  | cons second rest induction =>
      have split : (first.text :: (second :: rest).flatMap
          fun x => [[], '#' :: x.comment, x.text]) =
          [first.text, [], '#' :: second.comment] ++
            (second.text :: rest.flatMap fun x => [[], '#' :: x.comment, x.text]) := rfl
      rw [split, gapText_append, induction second, Lexer.partsText_cons]
      simp [gapText, Section.gap]

theorem join_sectionLines (head : List Text) (first : Section) (rest : List Section) :
    Text.join ['\n'] (head ++ (first :: rest).flatMap Section.lines) =
      documentText head first rest := by
  have lines : head ++ (first :: rest).flatMap Section.lines =
      ((head ++ ['#' :: first.comment]) ++
        (first.text :: rest.flatMap fun x => [[], '#' :: x.comment, x.text])) ++ [[]] := by
    rw [flatMap_sectionLines]
    simp
  rw [lines, join_lines, gapText_append, gapText_sections]
  rfl

end OutlineSearch.Yaml
