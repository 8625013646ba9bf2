import Mathlib.Data.List.TakeWhile
import OutlineSearch.Proofs.Timestamp.Reading

/-!
# Labels that are looked up

A label is read with case disregarded and then looked up by its upper case.  These two differ
on a dotted capital I, which is read as a letter of a label and is its own upper case.  A line
counts as labelled by its upper case too, so what is read as the label of such a line is found.
-/

namespace OutlineSearch.Timestamp

theorem spec_of_readWord? {word text read rest : Text}
    (isRead : readWord? word text = some (read, rest)) :
    text = read ++ rest ∧ ∀ c ∈ read, ∃ letter ∈ word, isLetterOf letter c = true := by
  induction word generalizing text read with
  | nil =>
      obtain ⟨rfl, rfl⟩ : [] = read ∧ text = rest := by simpa [readWord?] using isRead
      exact ⟨rfl, by simp⟩
  | cons letter word induction =>
      cases text with
      | nil => cases isRead
      | cons c text =>
          rw [readWord?] at isRead
          split at isRead
          · rename_i isLetter
            obtain ⟨⟨more, behind⟩, readMore, same⟩ := Option.map_eq_some_iff.mp isRead
            obtain ⟨rfl, rfl⟩ := Prod.mk.inj same
            obtain ⟨rfl, letters⟩ := induction readMore
            refine ⟨rfl, ?_⟩
            rw [List.forall_mem_cons]
            refine ⟨⟨letter, List.mem_cons_self, isLetter⟩, fun d member => ?_⟩
            obtain ⟨later, inWord, isLater⟩ := letters d member
            exact ⟨later, List.mem_cons_of_mem letter inWord, isLater⟩
          · cases isRead

theorem mem_of_isLetterOf {letter c : Char} (isLetter : isLetterOf letter c = true) :
    c ∈ letter :: Text.caseVariants letter := by
  rw [isLetterOf, Bool.or_eq_true, beq_iff_eq, List.contains_iff_mem] at isLetter
  exact List.mem_cons.mpr (isLetter.imp_left Eq.symm)

/-- The characters that are read as letters of a label. -/
def labelChars : List Char :=
  ["DEADLINE".toList, "SCHEDULED".toList].flatMap fun word =>
    word.flatMap fun letter => letter :: Text.caseVariants letter

theorem mem_labelChars {word label rest text : Text}
    (isLabel : word ∈ ["DEADLINE".toList, "SCHEDULED".toList])
    (isRead : readWord? word text = some (label, rest)) : ∀ c ∈ label, c ∈ labelChars := by
  intro c member
  obtain ⟨letter, inWord, isLetter⟩ := (spec_of_readWord? isRead).2 c member
  refine List.mem_flatMap.mpr ⟨word, isLabel, List.mem_flatMap.mpr ⟨letter, inWord, ?_⟩⟩
  exact mem_of_isLetterOf isLetter

/-- What is read as a label has no colon in its upper case. -/
theorem colon_notMem_upper {word label rest text : Text}
    (isLabel : word ∈ ["DEADLINE".toList, "SCHEDULED".toList])
    (isRead : readWord? word text = some (label, rest)) : ':' ∉ label.upper := by
  have noColon : (labelChars.all fun c => !(Text.upperOfChar c).contains ':') = true := by
    decide +kernel
  rw [List.all_eq_true] at noColon
  rw [Text.upper, List.mem_flatMap]
  rintro ⟨c, member, isColon⟩
  have notColon := noColon c (mem_labelChars isLabel isRead c member)
  simp [isColon] at notColon

theorem exists_word_of_readLabel? {text label rest : Text}
    (isRead : readLabel? text = some (label, rest)) :
    ∃ word ∈ ["DEADLINE".toList, "SCHEDULED".toList], ∃ behind : Text,
      readWord? word text = some (label, ':' :: behind) ∧ rest = behind.trimLeft := by
  obtain ⟨word, isLabel, readWord⟩ := List.exists_of_findSome?_eq_some isRead
  simp only [Option.bind_eq_bind, Option.bind_eq_some_iff] at readWord
  obtain ⟨⟨found, afterWord⟩, readWord, behind, readColon, same⟩ := readWord
  obtain ⟨rfl, rfl⟩ := Prod.mk.inj (Option.some.inj same)
  dsimp only at readColon
  rw [eq_cons_of_readChar? readColon] at readWord
  exact ⟨word, isLabel, behind, readWord, rfl⟩

/-- The upper case of what is read as a label ends where the colon stands. -/
theorem spec_of_readLabel? {text label rest : Text}
    (isRead : readLabel? text = some (label, rest)) :
    ':' ∉ label.upper ∧ ∃ behind, text.upper = label.upper ++ ':' :: behind := by
  obtain ⟨word, isLabel, behind, readWord, -⟩ := exists_word_of_readLabel? isRead
  obtain ⟨rfl, -⟩ := spec_of_readWord? readWord
  refine ⟨colon_notMem_upper isLabel readWord, Text.upper behind, ?_⟩
  simp [Text.upper, Text.upperOfChar]

theorem eq_of_append_colon_eq {first second rest behind : Text}
    (whole : first ++ ':' :: rest = second ++ ':' :: behind)
    (noColon : ':' ∉ first) (noColonToo : ':' ∉ second) : first = second := by
  have before : ∀ {part more : Text}, ':' ∉ part →
      (part ++ ':' :: more).takeWhile (· != ':') = part := by
    intro part more noColon
    have solid : ∀ c ∈ part, (c != ':') = true := by
      rintro c member
      rw [bne_iff_ne]
      rintro rfl
      exact noColon member
    rw [List.takeWhile_append_of_pos solid, List.takeWhile_cons_of_neg (by decide),
      List.append_nil]
  rw [← before noColon, whole, before noColonToo]

/-- The label of a labelled line is known. -/
theorem isSome_ofLabel?_of_isLabelled {line label rest : Text}
    (labelled : isLabelled line = true)
    (isRead : readLabel? line.trimLeft = some (label, rest)) :
    (Plan.ofLabel? label.upper).isSome = true := by
  obtain ⟨noColon, behind, upper⟩ := spec_of_readLabel? isRead
  -- Both the label that is read and the one that the line begins with end at the first colon.
  have isLabel : ∀ word : Text, ':' ∉ word →
      (word ++ [':']).isPrefixOf line.trimLeft.upper = true → label.upper = word := by
    intro word noColonToo begins
    obtain ⟨more, whole⟩ := List.isPrefixOf_iff_prefix.mp begins
    rw [upper, List.append_assoc, List.singleton_append] at whole
    exact (eq_of_append_colon_eq whole noColonToo noColon).symm
  rw [isLabelled, Bool.or_eq_true] at labelled
  rcases labelled with deadline | scheduled
  · rw [isLabel "DEADLINE".toList (by decide) deadline]
    decide
  · rw [isLabel "SCHEDULED".toList (by decide) scheduled]
    decide

theorem label_of_readBracket? {label : Option Text} {text : Text} {p : Parts}
    (isRead : readBracket? label text = some p) : p.label = label := by
  cases text with
  | nil => cases isRead
  | cons opener rest =>
      rw [readBracket?] at isRead
      split at isRead
      · simp only [Option.bind_eq_bind, Option.bind_eq_some_iff] at isRead
        obtain ⟨_, -, _, -, _, -, _, -, _, -, _, -, same⟩ := isRead
        rw [← Option.some.inj same]
      · cases isRead

theorem exists_planOf_of_isLabelled {line : Text} (labelled : isLabelled line = true)
    {p : Parts} (isRead : readParts? line = some p) : ∃ plan, planOf p.label = .ok plan := by
  rw [readParts?] at isRead
  split at isRead
  · rename_i label rest readLabel
    obtain ⟨plan, known⟩ :=
      Option.isSome_iff_exists.mp (isSome_ofLabel?_of_isLabelled labelled readLabel)
    rw [label_of_readBracket? isRead]
    exact ⟨plan, by simp only [planOf, known]⟩
  · rw [label_of_readBracket? isRead]
    exact ⟨.plain, rfl⟩

/-- A labelled line holds a timestamp or none, but no label that is not known. -/
theorem attempt_of_isLabelled {line : Text} (labelled : isLabelled line = true) :
    attempt line = .ok (parse line).toOption := by
  have known : ∀ label, parse line ≠ .error (.unknownLabel label) := by
    intro label unknown
    rw [parse] at unknown
    split at unknown
    · cases unknown
    · rename_i p readParts
      obtain ⟨plan, found⟩ := exists_planOf_of_isLabelled labelled readParts
      simp only [found] at unknown
      split at unknown
      · cases unknown
      · split at unknown <;> cases unknown
  rw [attempt]
  cases parsed : parse line with
  | ok t => rfl
  | error e =>
      cases e with
      | malformed _ => rfl
      | mismatched _ => rfl
      | impossible _ _ => rfl
      | unknownLabel label => exact (known label parsed).elim

end OutlineSearch.Timestamp
