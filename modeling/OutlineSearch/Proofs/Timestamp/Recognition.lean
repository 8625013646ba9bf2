import Mathlib.Data.List.Infix
import OutlineSearch.Proofs.LowerCase
import OutlineSearch.Proofs.Timestamp.Label
import OutlineSearch.Proofs.Timestamp.RoundTrip

/-!
# Two ways to recognize a label

A line counts as labelled if its upper case begins with a label and a colon; a timestamp is read
with a label if its letters equal those of the label, case disregarded, and its upper case is the
label.  Both ways recognize the same lines.  What has to be shown for this is that no upper case
runs across the letters of a label, and that each letter whose upper case is a letter of a label
equals it when case is disregarded.
-/

namespace OutlineSearch

namespace Text

theorem mem_shiftedFrom {runs : List (Nat × Nat × Nat × Int)} {code image : Nat}
    (shifted : shiftIn? runs code = some image) (positive : 0 < image) :
    code ∈ shiftedFrom runs image := by
  obtain ⟨low, high, stride, shift, member, above, below, counted, rfl⟩ :=
    exists_run_of_shiftIn? shifted
  have back : ((((code : Int) + shift).toNat : Int) - shift).toNat = code := by omega
  rw [shiftedFrom, List.mem_filterMap]
  refine ⟨(low, high, stride, shift), member, ?_⟩
  simp only [back, above, below, counted, decide_true, Bool.and_self, beq_self_eq_true, if_true]

/-- The upper case of a character is that of an ASCII letter, or several characters, or one
character, which is the character itself or one to which it is shifted. -/
theorem upperOfChar_cases (c : Char) :
    (c.toNat < 128 ∧ upperOfChar c = [c.toUpper]) ∨
      (∃ codes, (c.toNat, codes) ∈ toUpperExpansions ∧ upperOfChar c = codes.map Char.ofNat) ∨
      (128 ≤ c.toNat ∧ upperOfChar c = [c]) ∨
      ∃ image, shiftIn? toUpperRuns c.toNat = some image ∧ upperOfChar c = [Char.ofNat image] := by
  unfold upperOfChar
  split
  · rename_i ascii
    exact .inl ⟨ascii, rfl⟩
  · rename_i beyond
    split
    · rename_i codes found
      obtain ⟨before, behind, whole, -⟩ := List.lookup_eq_some_iff.mp found
      exact .inr (.inl ⟨codes, by rw [whole]; simp, rfl⟩)
    · cases shifted : shiftIn? toUpperRuns c.toNat with
      | none => exact .inr (.inr (.inl ⟨by omega, by simp⟩))
      | some image => exact .inr (.inr (.inr ⟨image, rfl, rfl⟩))

end Text

namespace Timestamp

/-- The labels with the colons behind them, and what they end in. -/
def labelEnds : List Text := "DEADLINE:".toList.tails ++ "SCHEDULED:".toList.tails

/-- The upper case of no single character begins a label's end with several characters, or goes
on behind it. -/
theorem expansions_apart_from_labels : ∀ expansion ∈ Text.toUpperExpansions,
    ∀ labelEnd ∈ labelEnds, labelEnd ≠ [] →
      ¬expansion.2.map Char.ofNat <+: labelEnd ∧ ¬labelEnd <+: expansion.2.map Char.ofNat := by
  decide +kernel

theorem ascii_letters_of_labels : ∀ code < 128, ∀ labelEnd ∈ labelEnds,
    (labelEnd.all fun letter => decide ((Char.ofNat code).toUpper = letter →
      isLetterOf letter (Char.ofNat code) = true)) = true := by
  decide +kernel

theorem shifted_letters_of_labels : ∀ labelEnd ∈ labelEnds,
    (labelEnd.all fun letter => decide (0 < letter.toNat ∧ letter.toNat < 128 ∧
      ∀ code ∈ Text.shiftedFrom Text.toUpperRuns letter.toNat,
        isLetterOf letter (Char.ofNat code) = true)) = true := by
  decide +kernel

theorem mem_labelEnds_iff (text : Text) :
    text ∈ labelEnds ↔ text <:+ "DEADLINE:".toList ∨ text <:+ "SCHEDULED:".toList := by
  rw [labelEnds, List.mem_append, List.mem_tails, List.mem_tails]

theorem tail_mem_labelEnds {letter : Char} {rest : Text} (isEnd : letter :: rest ∈ labelEnds) :
    rest ∈ labelEnds := by
  rw [mem_labelEnds_iff] at isEnd ⊢
  have shorter : rest <:+ letter :: rest := List.suffix_cons letter rest
  exact isEnd.imp shorter.trans shorter.trans

section Letter

variable {letter : Char} {rest : Text} (isEnd : letter :: rest ∈ labelEnds)
include isEnd

/-- Where an upper case is a letter of a label, it equals that letter, case disregarded. -/
theorem isLetterOf_of_upperOfChar {c : Char} (upper : Text.upperOfChar c = [letter]) :
    isLetterOf letter c = true := by
  obtain ⟨positive, ascii, shifts⟩ := of_decide_eq_true
    (List.all_eq_true.mp (shifted_letters_of_labels _ isEnd) letter List.mem_cons_self)
  rcases Text.upperOfChar_cases c with
    ⟨below, image⟩ | ⟨codes, member, image⟩ | ⟨above, image⟩ | ⟨code, shifted, image⟩ <;>
    rw [upper] at image
  · have isLetter := of_decide_eq_true
      (List.all_eq_true.mp (ascii_letters_of_labels c.toNat below _ isEnd) letter
        List.mem_cons_self)
    rw [Char.ofNat_toNat] at isLetter
    exact isLetter (List.singleton_inj.mp image).symm
  · have apart := expansions_apart_from_labels _ member _ isEnd (List.cons_ne_nil _ _)
    exact (apart.1 ⟨rest, by rw [← image]; rfl⟩).elim
  · obtain rfl := List.singleton_inj.mp image
    omega
  · have same := congrArg Char.toNat (List.singleton_inj.mp image)
    have valid : code.isValidChar := by
      by_contra invalid
      have zero : Char.ofNat code = Char.ofNat 0 := dif_neg invalid
      rw [zero] at same
      exact absurd same (Nat.ne_of_gt positive)
    rw [Text.toNat_ofNat_of_isValidChar valid] at same
    have isLetter := shifts c.toNat (Text.mem_shiftedFrom (same ▸ shifted) positive)
    rwa [Char.ofNat_toNat] at isLetter

/-- The first letter of a label comes from one character. -/
theorem spec_of_upper_begins {c : Char} {text : Text}
    (begins : letter :: rest <+: Text.upperOfChar c ++ Text.upper text) :
    Text.upperOfChar c = [letter] ∧ isLetterOf letter c = true ∧ rest <+: Text.upper text := by
  have single : ∀ d, Text.upperOfChar c = [d] → Text.upperOfChar c = [letter] ∧
      isLetterOf letter c = true ∧ rest <+: Text.upper text := by
    intro d image
    rw [image, List.singleton_append, List.cons_prefix_cons] at begins
    obtain ⟨rfl, more⟩ := begins
    exact ⟨image, isLetterOf_of_upperOfChar isEnd image, more⟩
  rcases Text.upperOfChar_cases c with
    ⟨-, image⟩ | ⟨codes, member, image⟩ | ⟨-, image⟩ | ⟨code, -, image⟩
  · exact single _ image
  · have apart := expansions_apart_from_labels _ member _ isEnd (List.cons_ne_nil _ _)
    rw [image] at begins
    rcases List.prefix_or_prefix_of_prefix begins (List.prefix_append _ _) with inside | beyond
    · exact (apart.2 inside).elim
    · exact (apart.1 beyond).elim
  · exact single _ image
  · exact single _ image

end Letter

/-- A text whose upper case begins with a label and a colon begins with what is read as that
label, and with the colon. -/
theorem exists_label_of_upper {word text : Text} (isEnd : word ++ [':'] ∈ labelEnds)
    (begins : word ++ [':'] <+: Text.upper text) :
    ∃ label behind, text = label ++ ':' :: behind ∧ Text.upper label = word ∧
      readWord? word text = some (label, ':' :: behind) := by
  induction word generalizing text with
  | nil =>
      cases text with
      | nil => simp [Text.upper] at begins
      | cons c behind =>
          have colon : ∀ c, isLetterOf ':' c = true → c = ':' := by
            intro c isLetter
            have variants : Text.caseVariants ':' = [':'] := by decide +kernel
            simpa [variants] using mem_of_isLetterOf isLetter
          obtain ⟨-, isLetter, -⟩ := spec_of_upper_begins isEnd begins
          obtain rfl := colon c isLetter
          exact ⟨[], behind, rfl, rfl, rfl⟩
  | cons letter word induction =>
      cases text with
      | nil => simp [Text.upper] at begins
      | cons c text =>
          obtain ⟨upper, isLetter, more⟩ := spec_of_upper_begins isEnd begins
          obtain ⟨label, behind, rfl, upperLabel, read⟩ :=
            induction (tail_mem_labelEnds isEnd) more
          refine ⟨c :: label, behind, rfl, ?_, ?_⟩
          · rw [← upperLabel, Text.upper, List.flatMap_cons, upper]
            rfl
          · simp [readWord?, isLetter, read]

/-! ## Labelled lines -/

/-- The upper case of a line begins with the label of a plan and a colon. -/
def IsLabelledFor (plan : Plan) (line : Text) : Prop :=
  ∃ label, plan.label? = some label ∧ label.toList ++ [':'] <+: Text.upper line.trimLeft

theorem isLabelled_iff (line : Text) :
    isLabelled line = true ↔ ∃ plan, IsLabelledFor plan line := by
  simp only [isLabelled, Bool.or_eq_true, List.isPrefixOf_iff_prefix]
  constructor
  · rintro (deadline | scheduled)
    · exact ⟨.deadline, _, rfl, deadline⟩
    · exact ⟨.scheduled, _, rfl, scheduled⟩
  · rintro ⟨plan, label, isLabel, begins⟩
    cases plan with
    | scheduled =>
        obtain rfl := Option.some.inj isLabel
        exact .inr begins
    | deadline =>
        obtain rfl := Option.some.inj isLabel
        exact .inl begins
    | plain => cases isLabel

theorem ofLabel?_eq_some_iff (label : Text) (plan : Plan) :
    Plan.ofLabel? label = some plan ↔ ∃ name, plan.label? = some name ∧ label = name.toList := by
  unfold Plan.ofLabel?
  constructor
  · intro found
    split at found
    · rename_i deadline
      obtain rfl := Option.some.inj found
      exact ⟨_, rfl, deadline⟩
    · split at found
      · rename_i scheduled
        obtain rfl := Option.some.inj found
        exact ⟨_, rfl, scheduled⟩
      · cases found
  · rintro ⟨name, isLabel, rfl⟩
    cases plan with
    | scheduled =>
        obtain rfl := Option.some.inj isLabel
        decide
    | deadline =>
        obtain rfl := Option.some.inj isLabel
        decide
    | plain => cases isLabel

theorem mem_labelEnds_of_label? {plan : Plan} {name : String} (isLabel : plan.label? = some name) :
    name.toList ++ [':'] ∈ labelEnds ∧ name.toList ∈ ["DEADLINE".toList, "SCHEDULED".toList] ∧
      ':' ∉ name.toList := by
  cases plan with
  | scheduled =>
      obtain rfl := Option.some.inj isLabel
      decide
  | deadline =>
      obtain rfl := Option.some.inj isLabel
      decide
  | plain => cases isLabel

theorem upper_append_colon (label behind : Text) :
    Text.upper (label ++ ':' :: behind) = Text.upper label ++ ':' :: Text.upper behind := by
  simp [Text.upper, Text.upperOfChar]

theorem colon_notMem_of_upper {label : Text} (noColon : ':' ∉ Text.upper label) : ':' ∉ label := by
  intro member
  apply noColon
  rw [Text.upper, List.mem_flatMap]
  exact ⟨':', member, by decide⟩

theorem exists_behind_of_readLabel? {text label rest : Text}
    (read : readLabel? text = some (label, rest)) :
    ∃ behind : Text, text = label ++ ':' :: behind ∧ rest = behind.trimLeft := by
  obtain ⟨word, -, behind, readWord, rest_eq⟩ := exists_word_of_readLabel? read
  exact ⟨behind, (spec_of_readWord? readWord).1, rest_eq⟩

/-- What has a known label for its upper case is read as a label in front of a colon. -/
theorem readLabel?_of_known {label : Text} {plan : Plan}
    (known : Plan.ofLabel? label.upper = some plan) (behind : Text) :
    readLabel? (label ++ ':' :: behind) = some (label, behind.trimLeft) := by
  obtain ⟨name, isLabel, upper⟩ := (ofLabel?_eq_some_iff _ _).mp known
  obtain ⟨isEnd, isWord, noColon⟩ := mem_labelEnds_of_label? isLabel
  have begins : name.toList ++ [':'] <+: Text.upper (label ++ ':' :: behind) := by
    rw [upper_append_colon, upper]
    exact ⟨behind.upper, by simp⟩
  obtain ⟨_, _, -, -, readWord⟩ := exists_label_of_upper isEnd begins
  have isSome : (readLabel? (label ++ ':' :: behind)).isSome = true := by
    rw [readLabel?, List.findSome?_isSome_iff]
    exact ⟨name.toList, isWord, by simp [readWord, readChar?_cons]⟩
  obtain ⟨⟨found, rest⟩, read⟩ := Option.isSome_iff_exists.mp isSome
  obtain ⟨after, whole, rfl⟩ := exists_behind_of_readLabel? read
  -- Both labels end at the first colon.
  have same : label = found := by
    apply eq_of_append_colon_eq whole
    · rw [← upper] at noColon
      exact colon_notMem_of_upper noColon
    · exact colon_notMem_of_upper (spec_of_readLabel? read).1
  subst same
  obtain rfl : behind = after := by simpa using whole
  exact read

theorem isLabelledFor_iff (plan : Plan) (line : Text) :
    IsLabelledFor plan line ↔ ∃ label behind : Text, line.trimLeft = label ++ ':' :: behind ∧
      Plan.ofLabel? label.upper = some plan := by
  simp only [ofLabel?_eq_some_iff]
  constructor
  · rintro ⟨name, isLabel, begins⟩
    obtain ⟨isEnd, -, -⟩ := mem_labelEnds_of_label? isLabel
    obtain ⟨label, behind, whole, upper, -⟩ := exists_label_of_upper isEnd begins
    exact ⟨label, behind, whole, name, isLabel, upper⟩
  · rintro ⟨label, behind, whole, name, isLabel, upper⟩
    refine ⟨name, isLabel, behind.upper, ?_⟩
    rw [whole, upper_append_colon, upper]
    simp

/-! ## What is read of a labelled line -/

theorem parse_eq_ok_iff (line : Text) (t : Timestamp) :
    parse line = .ok t ↔ ∃ p, readParts? line = some p ∧ closerOf p.opener = p.details.closer ∧
      planOf p.label = .ok t.plan ∧ p.moments = .ok (t.start, t.until?) ∧
      decide (p.opener = '<') = t.isActive ∧ p.details.interval = t.interval := by
  constructor
  · intro read
    rw [parse] at read
    split at read
    · cases read
    · rename_i p readParts
      split at read
      · cases read
      · rename_i closed
        split at read
        · cases read
        · rename_i plan isPlan
          split at read
          · cases read
          · rename_i start finish moments
            obtain rfl := Except.ok.inj read
            exact ⟨p, readParts, by simpa using closed, isPlan, moments, rfl, rfl⟩
  · rintro ⟨p, readParts, closed, isPlan, moments, active, interval⟩
    simp only [parse, readParts, closed, isPlan, moments, active, interval, ne_eq,
      not_true_eq_false, if_false]

/-- A line that is refused as no timestamp, not for a label that is looked up in vain. -/
def Error.IsRefusal (e : Error) : Prop := ∀ label, e ≠ .unknownLabel label

theorem unknownLabel_of_parse {line label : Text}
    (refused : parse line = .error (.unknownLabel label)) :
    ∃ p, readParts? line = some p ∧ planOf p.label = .error (.unknownLabel label) := by
  rw [parse] at refused
  split at refused
  · cases refused
  · rename_i p readParts
    split at refused
    · cases refused
    · split at refused
      · rename_i e unknown
        rw [Except.error.inj refused] at unknown
        exact ⟨p, readParts, unknown⟩
      · split at refused <;> cases refused

/-- The label that is read of a line is what stands in front of its first colon. -/
theorem label_of_readParts? {line label behind : Text} {plan : Plan} {p : Parts}
    (whole : line.trimLeft = label ++ ':' :: behind)
    (known : Plan.ofLabel? label.upper = some plan) (read : readParts? line = some p) :
    planOf p.label = .ok plan := by
  rw [readParts?, whole, readLabel?_of_known known] at read
  rw [label_of_readBracket? read]
  simp only [planOf, known]

theorem isLabelledFor_of_parse {line : Text} {t : Timestamp} (read : parse line = .ok t)
    (labelled : t.plan ≠ .plain) : IsLabelledFor t.plan line := by
  obtain ⟨p, readParts, -, isPlan, -⟩ := (parse_eq_ok_iff line t).mp read
  rw [readParts?] at readParts
  split at readParts
  · rename_i label rest readLabel
    rw [label_of_readBracket? readParts] at isPlan
    obtain ⟨behind, whole, -⟩ := exists_behind_of_readLabel? readLabel
    refine (isLabelledFor_iff t.plan line).mpr ⟨label, behind, whole, ?_⟩
    rw [planOf] at isPlan
    split at isPlan
    · rename_i plan known
      rw [known, Except.ok.inj isPlan]
    · cases isPlan
  · rw [label_of_readBracket? readParts] at isPlan
    exact (labelled (Except.ok.inj isPlan).symm).elim

theorem parse_of_isLabelledFor {line : Text} {plan : Plan} (labelled : IsLabelledFor plan line) :
    (∃ t, parse line = .ok t ∧ t.plan = plan) ∨ ∃ e, parse line = .error e ∧ e.IsRefusal := by
  obtain ⟨label, behind, whole, known⟩ := (isLabelledFor_iff plan line).mp labelled
  cases outcome : parse line with
  | ok t =>
      obtain ⟨p, readParts, -, isPlan, -⟩ := (parse_eq_ok_iff line t).mp outcome
      rw [label_of_readParts? whole known readParts] at isPlan
      exact .inl ⟨t, rfl, (Except.ok.inj isPlan).symm⟩
  | error e =>
      refine .inr ⟨e, rfl, ?_⟩
      rintro unread rfl
      obtain ⟨p, readParts, unknown⟩ := unknownLabel_of_parse outcome
      rw [label_of_readParts? whole known readParts] at unknown
      cases unknown

/-- A text in brackets is read without a label, so none is looked up. -/
theorem isRefusal_of_bracketed {text : Text} {e : Error}
    (bracketed : text.head? = some '<' ∨ text.head? = some '[') (refused : parse text = .error e) :
    e.IsRefusal := by
  rintro label rfl
  obtain ⟨p, readParts, unknown⟩ := unknownLabel_of_parse refused
  cases text with
  | nil => simp at bracketed
  | cons opener rest =>
      have opens : opener = '<' ∨ opener = '[' := by simpa using bracketed
      have solid : Text.isBlank opener = false := by
        rcases opens with rfl | rfl <;> decide
      rw [readParts?, Text.trimLeft_cons_of_not_blank solid, readLabel?_of_opener opens]
        at readParts
      rw [label_of_readBracket? readParts] at unknown
      cases unknown

theorem ofRequest_spec (plan : Plan) (value : Text) :
    (∃ t, ofRequest plan value = .ok t ∧ t.plan = plan) ∨
      ∃ e, ofRequest plan value = .error e ∧ e.IsRefusal := by
  have shape : ∃ text : Text, (text.head? = some '<' ∨ text.head? = some '[') ∧
      ofRequest plan value = (fun t => { t with plan := plan }) <$> parse text := by
    simp only [ofRequest]
    generalize (if isLabelled value.trim = true then _ else value.trim : Text) = unlabelled
    refine ⟨_, ?_, rfl⟩
    split
    · rename_i bracketed
      simpa using bracketed
    · exact .inl rfl
  obtain ⟨text, bracketed, request⟩ := shape
  rw [request]
  cases outcome : parse text with
  | ok t => exact .inl ⟨_, rfl, rfl⟩
  | error e => exact .inr ⟨e, rfl, isRefusal_of_bracketed bracketed outcome⟩

/-- A labelled text has a colon, behind which the label that is dropped ends. -/
theorem colon_mem_of_isLabelled {text : Text} (labelled : isLabelled text = true) : ':' ∈ text := by
  obtain ⟨plan, isFor⟩ := (isLabelled_iff text).mp labelled
  obtain ⟨label, behind, whole, -⟩ := (isLabelledFor_iff plan text).mp isFor
  have inside : ':' ∈ text.trimLeft := by simp [whole]
  exact (List.dropWhile_sublist _).subset inside

/-- A line from which a timestamp is read with a label is labelled, and for the same plan; from a
labelled line a timestamp of its plan is read, or it is refused as no timestamp.  What is read of a
request has the plan that is asked for, or the request is refused as no timestamp. -/
theorem recognizers_agree :
    (∀ line : Text,
      (isLabelled line = true ↔ ∃ plan, IsLabelledFor plan line) ∧
      (∀ t, parse line = .ok t → t.plan ≠ .plain → IsLabelledFor t.plan line) ∧
      ∀ plan, IsLabelledFor plan line →
        (∃ t, parse line = .ok t ∧ t.plan = plan) ∨ ∃ e, parse line = .error e ∧ e.IsRefusal) ∧
    ∀ (plan : Plan) (value : Text),
      (isLabelled value.trim = true → ':' ∈ value.trim) ∧
        ((∃ t, ofRequest plan value = .ok t ∧ t.plan = plan) ∨
          ∃ e, ofRequest plan value = .error e ∧ e.IsRefusal) := by
  refine ⟨fun line => ⟨isLabelled_iff line, ?_, ?_⟩, fun plan value => ⟨?_, ?_⟩⟩
  · intro t read labelled
    exact isLabelledFor_of_parse read labelled
  · intro plan labelled
    exact parse_of_isLabelledFor labelled
  · exact colon_mem_of_isLabelled
  · exact ofRequest_spec plan value

/-- A label that begins with a long s is recognized in both ways, and a request may bear it. -/
theorem recognizers_agree_on_long_s :
    (∃ t, parse "\t\u017fchEDULED: [2021-08-28]".toList = .ok t ∧ t.plan ≠ .plain ∧
      IsLabelledFor t.plan "\t\u017fchEDULED: [2021-08-28]".toList) ∧
    isLabelled (Text.trim "\u017fcheduled: 2021-08-28 ".toList) = true ∧
    ':' ∈ Text.trim "\u017fcheduled: 2021-08-28 ".toList := by
  have read : parse "\t\u017fchEDULED: [2021-08-28]".toList =
      .ok ⟨.scheduled, false, ⟨⟨2021, 8, 28⟩, .midnight⟩, none, none⟩ := by
    decide +kernel
  have labelled : isLabelled (Text.trim "\u017fcheduled: 2021-08-28 ".toList) = true := by
    decide +kernel
  exact ⟨⟨_, read, by decide, (recognizers_agree.1 _).2.1 _ read (by decide)⟩, labelled,
    (recognizers_agree.2 .deadline _).1 labelled⟩

end Timestamp

end OutlineSearch
