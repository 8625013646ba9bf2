import Mathlib.Data.List.DropRight
import OutlineSearch.Proofs.Digits
import OutlineSearch.Proofs.HeadingLine
import OutlineSearch.Proofs.Pieces
import OutlineSearch.Proofs.Timestamp.Reading

/-!
# Headings that are written and read

A heading is written as its markers, a space, and then, each where there is one, its state, its
priority in a cookie, its title, and its tags between colons.  It is read back as it was, tags
that are repeated apart, unless its title begins or ends like one of the parts that are not
there.
-/

namespace OutlineSearch

namespace Heading

/-- A block of tags, such as `:a:b:`. -/
def blockOf (tags : List Text) : Text := ':' :: (Text.join [':'] tags ++ [':'])

/-- A cookie, such as `[#A]`. -/
def cookieOf (token : Text) : Text := '[' :: '#' :: (token ++ [']'])

/-- The state with the space behind it. -/
def todoText : Option Todo → Text
  | none => []
  | some todo => todo.word ++ [' ']

/-- The priority with the space behind it. -/
def priorityText : Option Priority → Text
  | none => []
  | some priority => cookieOf priority.token ++ [' ']

/-- The tags with the space in front of them. -/
def tagsText (tags : List Text) : Text := if tags = [] then [] else ' ' :: blockOf tags

/-- A heading as it is written on its line. -/
def lineText (kind : OutlineKind) (h : Heading) : Text :=
  List.replicate h.depth kind.marker ++ ' ' ::
    (todoText h.todo ++ (priorityText h.priority ++ (h.title ++ tagsText h.tags)))

/-- A word in capitals. -/
structure IsTodoWord (word : Text) : Prop where
  nonempty : word ≠ []
  capitals : ∀ c ∈ word, c.isUpper = true

/-- What can stand in a cookie. -/
structure IsToken (token : Text) : Prop where
  nonempty : token ≠ []
  alphanumeric : ∀ c ∈ token, Text.isAlphanumeric c = true

/-- Tags that make up a block. -/
structure AreTags (tags : List Text) : Prop where
  nonempty : tags ≠ []
  tag : ∀ tag ∈ tags, isTag tag = true

/-- A title that is a word in capitals, or begins with one and a space. -/
def BeginsWithTodo (title : Text) : Prop :=
  ∃ word, IsTodoWord word ∧ (title = word ∨ word ++ [' '] <+: title)

/-- A title that begins with a cookie. -/
def BeginsWithCookie (title : Text) : Prop := ∃ token, IsToken token ∧ cookieOf token <+: title

/-- A title that ends in a block of tags, with a blank or nothing in front of the block. -/
def EndsWithBlock (title : Text) : Prop :=
  ∃ before tags, AreTags tags ∧ title = before ++ blockOf tags ∧
    ∀ c ∈ before.getLast?, Text.isBlank c = true

/-- What is needed for a heading to be read back from its line. -/
structure IsWritable (h : Heading) : Prop where
  depth : 1 ≤ h.depth
  todo : ∀ todo, h.todo = some todo → IsTodoWord todo.word
  priority : ∀ priority, h.priority = some priority → IsToken priority.token
  title : h.title.trim = h.title
  tags : ∀ tag ∈ h.tags, isTag tag = true
  notTodo : h.todo = none → h.priority = none → ¬BeginsWithTodo h.title
  notCookie : h.priority = none → ¬BeginsWithCookie h.title
  notBlock : h.tags = [] → ¬EndsWithBlock h.title

end Heading

namespace Text

/-! ## Blanks around a text -/

/-- A code point lies in no range that is apart from the one in which it lies. -/
theorem inRanges_eq_false {ranges others : List (Nat × Nat)} {code : Nat}
    (apart : ∀ range ∈ ranges, ∀ other ∈ others, other.2 < range.1 ∨ range.2 < other.1)
    (inside : inRanges ranges code = true) : inRanges others code = false := by
  obtain ⟨range, member, between⟩ := List.any_eq_true.mp inside
  rw [inRanges, List.any_eq_false]
  rintro other isOther
  have separate := apart range member other isOther
  simp only [Bool.and_eq_true, decide_eq_true_eq] at between ⊢
  omega

theorem letters_apart_from_blanks : ∀ range ∈ letterRanges, ∀ other ∈ blankRanges,
    other.2 < range.1 ∨ range.2 < other.1 := by
  decide +kernel

theorem numerals_apart_from_blanks : ∀ range ∈ numeralRanges, ∀ other ∈ blankRanges,
    other.2 < range.1 ∨ range.2 < other.1 := by
  decide +kernel

theorem isBlank_of_isAlpha {c : Char} (alpha : c.isAlpha = true) : isBlank c = false := by
  have letters : ∀ code < 128, (Char.ofNat code).isAlpha = true →
      isBlank (Char.ofNat code) = false := by
    decide +kernel
  have ascii := toNat_lt_of_isAlpha alpha
  rw [← Char.ofNat_toNat c] at alpha ⊢
  exact letters c.toNat ascii alpha

theorem isBlank_of_isUpper {c : Char} (upper : c.isUpper = true) : isBlank c = false :=
  isBlank_of_isAlpha (Bool.or_eq_true_iff.mpr (.inl upper))

/-- No blank is a letter or a numeral. -/
theorem isBlank_of_isAlphanumeric {c : Char} (alphanumeric : isAlphanumeric c = true) :
    isBlank c = false := by
  rw [isAlphanumeric, Bool.or_eq_true, Bool.or_eq_true, Bool.and_eq_true] at alphanumeric
  obtain (letter | decimal) | ⟨-, numeral⟩ := alphanumeric
  · unfold isLetter at letter
    split at letter
    · exact isBlank_of_isAlpha letter
    · exact inRanges_eq_false letters_apart_from_blanks letter
  · exact isBlank_of_isDecimal decimal
  · exact inRanges_eq_false numerals_apart_from_blanks numeral

/-- What is trimmed on both sides is trimmed in front. -/
theorem trimLeft_of_trim {text : Text} (trimmed : text.trim = text) : text.trimLeft = text := by
  have whole : text.length ≤ text.trimLeft.length := by
    calc text.length = (trimRight text.trimLeft).length := by rw [← trim, trimmed]
      _ ≤ text.trimLeft.length := length_trimRight_le _
  exact (List.dropWhile_suffix isBlank).eq_of_length_le whole

theorem trimRight_of_trim {text : Text} (trimmed : text.trim = text) : text.trimRight = text := by
  rw [trim, trimLeft_of_trim trimmed] at trimmed
  exact trimmed

theorem trimLeft_append_of_trim {text : Text} (trimmed : text.trim = text) (nonempty : text ≠ [])
    (rest : Text) : trimLeft (text ++ rest) = text ++ rest := by
  obtain ⟨c, more, rfl⟩ := List.exists_cons_of_ne_nil nonempty
  have solid : isBlank c = false := by
    have front := List.head?_dropWhile_not isBlank (c :: more)
    rw [← trimLeft, trimLeft_of_trim trimmed] at front
    simpa using front
  exact trimLeft_cons_of_not_blank solid _

/-- Blanks behind a text without blanks at its ends are trimmed off. -/
theorem trim_append_blanks {text blanks : Text} (blank : ∀ c ∈ blanks, isBlank c = true)
    (trimmed : text.trim = text) : trim (text ++ blanks) = text := by
  by_cases nonempty : text = []
  · have nothing : trimLeft blanks = [] := List.dropWhile_eq_nil_iff.mpr blank
    rw [nonempty, List.nil_append, trim, nothing]
    rfl
  · rw [trim, trimLeft_append_of_trim trimmed nonempty, trimRight_append_blanks blank,
      trimRight_of_trim trimmed]

/-- A text without blanks in front of what begins like a title and a blank is in the title. -/
theorem isPrefix_of_append_eq {solid title tail rest : Text}
    (noBlank : ∀ c ∈ solid, isBlank c = false) (ends : ∀ c ∈ tail.head?, isBlank c = true)
    (same : title ++ tail = solid ++ rest) : solid <+: title := by
  rcases List.append_eq_append_iff.mp same with ⟨more, rfl, behind⟩ | ⟨more, rfl, -⟩
  · cases more with
    | nil => simp
    | cons c more =>
        have blank := ends c (by rw [behind]; rfl)
        rw [noBlank c (by simp)] at blank
        cases blank
  · exact List.prefix_append solid more

end Text

namespace Heading

/-! ## The state and the priority -/

theorem takeTodo_word {word : Text} (isWord : IsTodoWord word) (rest : Text) :
    takeTodo (word ++ ' ' :: rest) = (some ⟨word⟩, rest.trimLeft) := by
  have space : ¬(' '.isUpper = true) := by decide
  have taken : (word ++ ' ' :: rest).takeWhile Char.isUpper = word := by
    rw [List.takeWhile_append_of_pos isWord.capitals, List.takeWhile_cons_of_neg space,
      List.append_nil]
  have dropped : (word ++ ' ' :: rest).dropWhile Char.isUpper = ' ' :: rest := by
    rw [List.dropWhile_append_of_pos isWord.capitals, List.dropWhile_cons_of_neg space]
  simp [takeTodo, taken, dropped, isWord.nonempty]

theorem takeTodo_eq_none {text : Text}
    (unlike : ∀ word rest, IsTodoWord word → text ≠ word ++ ' ' :: rest) :
    takeTodo text = (none, text) := by
  unfold takeTodo
  dsimp only
  split
  · rename_i rest behind
    split
    · rfl
    · rename_i nonempty
      have whole := List.takeWhile_append_dropWhile (p := Char.isUpper) (l := text)
      rw [behind] at whole
      have isWord : IsTodoWord (text.takeWhile Char.isUpper) :=
        ⟨by simpa using nonempty, fun c member => List.mem_takeWhile_imp member⟩
      exact (unlike _ rest isWord whole.symm).elim
  · rfl

theorem takePriority_cookie {token : Text} (isToken : IsToken token) (rest : Text) :
    takePriority (cookieOf token ++ rest) = (some ⟨token⟩, rest.trimLeft) := by
  have bracket : ¬(Text.isAlphanumeric ']' = true) := by decide +kernel
  have taken : (token ++ ']' :: rest).takeWhile Text.isAlphanumeric = token := by
    rw [List.takeWhile_append_of_pos isToken.alphanumeric, List.takeWhile_cons_of_neg bracket,
      List.append_nil]
  have dropped : (token ++ ']' :: rest).dropWhile Text.isAlphanumeric = ']' :: rest := by
    rw [List.dropWhile_append_of_pos isToken.alphanumeric, List.dropWhile_cons_of_neg bracket]
  simp [takePriority, cookieOf, taken, dropped, isToken.nonempty]

theorem takePriority_eq_none {text : Text}
    (unlike : ∀ token rest, IsToken token → text ≠ cookieOf token ++ rest) :
    takePriority text = (none, text) := by
  unfold takePriority
  split
  · rename_i behindMark
    dsimp only
    split
    · rename_i rest behind
      split
      · rfl
      · rename_i nonempty
        have whole := List.takeWhile_append_dropWhile (p := Text.isAlphanumeric) (l := behindMark)
        rw [behind] at whole
        have isToken : IsToken (behindMark.takeWhile Text.isAlphanumeric) :=
          ⟨by simpa using nonempty, fun c member => List.mem_takeWhile_imp member⟩
        refine (unlike _ rest isToken ?_).elim
        simpa [cookieOf] using whole.symm
    · rfl
  · rfl

/-! ## The tags -/

theorem blockOf_eq_join (tags : List Text) (nonempty : tags ≠ []) :
    blockOf tags = Text.join [':'] ([] :: (tags ++ [[]])) := by
  rw [Text.join_cons _ _ (by simp), Text.join_append _ nonempty (by simp)]
  simp [blockOf, Text.join]

theorem colon_notMem_tag {tag : Text} (isTag : isTag tag = true) : ':' ∉ tag := by
  have colon : Text.isAlphanumeric ':' = false := by decide +kernel
  rw [Heading.isTag, Bool.and_eq_true, List.all_eq_true] at isTag
  intro member
  rw [isTag.2 ':' member] at colon
  cases colon

theorem splitOnChar_blockOf {tags : List Text} (areTags : AreTags tags) :
    Text.splitOnChar ':' (blockOf tags) = [] :: (tags ++ [[]]) := by
  rw [blockOf_eq_join tags areTags.nonempty, Text.splitOnChar_join (by simp)]
  intro piece member
  simp only [List.mem_cons, List.mem_append, List.not_mem_nil, or_false] at member
  rcases member with rfl | inTags | rfl
  · simp
  · exact colon_notMem_tag (areTags.tag piece inTags)
  · simp

theorem tagsOfBlock?_eq_some_iff (word : Text) (tags : List Text) :
    tagsOfBlock? word = some tags ↔ AreTags tags ∧ word = blockOf tags := by
  constructor
  · intro read
    have whole := Text.join_splitOnChar ':' word
    unfold tagsOfBlock? at read
    split at read
    · rename_i pieces split
      dsimp only at read
      split at read
      · rename_i shape
        obtain rfl := Option.some.inj read
        simp only [Bool.and_eq_true, decide_eq_true_eq, Bool.not_eq_true',
          List.isEmpty_eq_false_iff, List.all_eq_true] at shape
        obtain ⟨⟨last, nonempty⟩, tag⟩ := shape
        have closed : pieces = pieces.dropLast ++ [[]] :=
          (List.dropLast_append_getLast? [] last).symm
        refine ⟨⟨nonempty, tag⟩, ?_⟩
        rw [blockOf_eq_join _ nonempty, ← closed, ← split, whole]
      · cases read
    · cases read
  · rintro ⟨areTags, rfl⟩
    have tag : tags.all isTag = true := List.all_eq_true.mpr areTags.tag
    simp [tagsOfBlock?, splitOnChar_blockOf areTags, areTags.nonempty, tag]

theorem solid_blockOf {tags : List Text} (areTags : AreTags tags) :
    ∀ c ∈ blockOf tags, Text.isBlank c = false := by
  have inside : ∀ c ∈ Text.join [':'] tags, Text.isBlank c = false := by
    intro c member
    rcases Text.mem_join member with isColon | ⟨tag, isMember, inTag⟩
    · rw [List.mem_singleton.mp isColon]
      decide
    · have solid := areTags.tag tag isMember
      rw [isTag, Bool.and_eq_true, List.all_eq_true] at solid
      exact Text.isBlank_of_isAlphanumeric (solid.2 c inTag)
  rw [blockOf, List.forall_mem_cons, List.forall_mem_append]
  exact ⟨by decide, inside, List.forall_mem_singleton.mpr (by decide)⟩

/-- The last word is what stands behind the last blank. -/
theorem splitLastWord_append {before word blanks : Text}
    (ends : ∀ c ∈ before.getLast?, Text.isBlank c = true) (nonempty : word ≠ [])
    (solid : ∀ c ∈ word, Text.isBlank c = false) (blank : ∀ c ∈ blanks, Text.isBlank c = true) :
    splitLastWord (before ++ word ++ blanks) = (before, word) := by
  have kept : Text.trimRight (before ++ word) = before ++ word := by
    rw [Text.trimRight_eq_rdropWhile, List.rdropWhile_eq_self_iff]
    intro _
    rw [List.getLast_append_of_ne_nil _ nonempty, solid _ (List.getLast_mem nonempty)]
    exact Bool.false_ne_true
  have inWord : ∀ c ∈ word.reverse, (!Text.isBlank c) = true := by simpa using solid
  have stops : before.reverse.takeWhile (fun c => !Text.isBlank c) = [] ∧
      before.reverse.dropWhile (fun c => !Text.isBlank c) = before.reverse := by
    rw [List.getLast?_eq_head?_reverse] at ends
    cases reversed : before.reverse with
    | nil => exact ⟨rfl, rfl⟩
    | cons c more =>
        have isBlank := ends c (by rw [reversed]; rfl)
        constructor
        · exact List.takeWhile_cons_of_neg (by simp [isBlank])
        · exact List.dropWhile_cons_of_neg (by simp [isBlank])
  simp only [splitLastWord, Text.trimRight_append_blanks blank, kept, List.reverse_append,
    List.takeWhile_append_of_pos inWord, List.dropWhile_append_of_pos inWord, stops.1, stops.2,
    List.append_nil, List.reverse_reverse]

theorem splitLastWord_spec (text : Text) :
    text.trimRight = (splitLastWord text).1 ++ (splitLastWord text).2 ∧
      ∀ c ∈ (splitLastWord text).1.getLast?, Text.isBlank c = true := by
  constructor
  · rw [splitLastWord, ← List.reverse_append, List.takeWhile_append_dropWhile,
      List.reverse_reverse]
  · intro c isLast
    have stops := List.head?_dropWhile_not (fun c => !Text.isBlank c) text.trimRight.reverse
    rw [splitLastWord, List.getLast?_reverse] at isLast
    rw [isLast] at stops
    simpa using stops

theorem takeTags_block (before : Text) {blanks : Text} {tags : List Text} (areTags : AreTags tags)
    (ends : ∀ c ∈ before.getLast?, Text.isBlank c = true)
    (blank : ∀ c ∈ blanks, Text.isBlank c = true) :
    takeTags (before ++ blockOf tags ++ blanks) = (tags, before.dropLast) := by
  have nonempty : blockOf tags ≠ [] := List.cons_ne_nil _ _
  have split := splitLastWord_append ends nonempty (solid_blockOf areTags) blank
  have read := (tagsOfBlock?_eq_some_iff (blockOf tags) tags).mpr ⟨areTags, rfl⟩
  simp only [takeTags, split, read]

theorem takeTags_eq_nil {text : Text} (unlike : ¬EndsWithBlock text.trimRight) :
    takeTags text = ([], text) := by
  obtain ⟨whole, ends⟩ := splitLastWord_spec text
  cases read : tagsOfBlock? (splitLastWord text).2 with
  | none => simp only [takeTags, read]
  | some tags =>
      obtain ⟨areTags, word⟩ := (tagsOfBlock?_eq_some_iff _ tags).mp read
      rw [word] at whole
      exact (unlike ⟨_, tags, areTags, whole, ends⟩).elim

/-! ## The whole line -/

section Line

variable {h : Heading} {blanks : Text} (blank : ∀ c ∈ blanks, Text.isBlank c = true)
include blank

/-- Without a title there are the tags or nothing. -/
theorem trimLeft_tagsText (empty : h.title = []) :
    Text.trimLeft (h.title ++ (tagsText h.tags ++ blanks)) =
      if h.tags = [] then [] else blockOf h.tags ++ blanks := by
  have colon : Text.isBlank ':' = false := by decide
  rw [empty, List.nil_append, tagsText]
  split
  · exact List.dropWhile_eq_nil_iff.mpr blank
  · rw [List.cons_append, Text.trimLeft_blank_cons (by decide)]
    exact Text.trimLeft_cons_of_not_blank colon _

theorem head?_tagsText : ∀ c ∈ (tagsText h.tags ++ blanks).head?, Text.isBlank c = true := by
  rw [tagsText]
  split
  · intro c isFirst
    exact blank c (List.mem_of_head? isFirst)
  · rintro c isFirst
    obtain rfl : ' ' = c := Option.some.inj isFirst
    decide

variable (writable : h.IsWritable)
include writable

/-- What a title and its tags begin with, where it is neither blank nor a block of tags, the
title begins with. -/
theorem isPrefix_title {solid rest : Text} (nonempty : solid ≠ [])
    (noBlank : ∀ c ∈ solid, Text.isBlank c = false) (notColon : ∀ c ∈ solid.head?, c ≠ ':')
    (same : Text.trimLeft (h.title ++ (tagsText h.tags ++ blanks)) = solid ++ rest) :
    solid <+: h.title := by
  by_cases empty : h.title = []
  · rw [trimLeft_tagsText blank empty] at same
    obtain ⟨c, more, rfl⟩ := List.exists_cons_of_ne_nil nonempty
    split at same
    · cases same
    · exact (notColon c rfl (List.cons.inj same).1.symm).elim
  · rw [Text.trimLeft_append_of_trim writable.title empty] at same
    exact Text.isPrefix_of_append_eq noBlank (head?_tagsText blank) same

theorem title_not_todo (noTodo : h.todo = none) (noPriority : h.priority = none) {word : Text}
    (isWord : IsTodoWord word) (rest : Text) :
    Text.trimLeft (h.title ++ (tagsText h.tags ++ blanks)) ≠ word ++ ' ' :: rest := by
  intro same
  have colon : ':'.isUpper = false := by decide
  have notColon : ∀ c ∈ word.head?, c ≠ ':' := by
    rintro c isFirst rfl
    rw [isWord.capitals ':' (List.mem_of_head? isFirst)] at colon
    cases colon
  obtain ⟨more, title⟩ := isPrefix_title blank writable isWord.nonempty
    (fun c member => Text.isBlank_of_isUpper (isWord.capitals c member)) notColon same
  have nonempty : h.title ≠ [] := by
    rw [← title]
    exact List.append_ne_nil_of_left_ne_nil isWord.nonempty more
  rw [Text.trimLeft_append_of_trim writable.title nonempty, ← title, List.append_assoc,
    List.append_cancel_left_eq] at same
  -- The word is the whole title, or a space follows it in the title.
  refine writable.notTodo noTodo noPriority ⟨word, isWord, ?_⟩
  cases more with
  | nil => exact .inl (by rw [← title, List.append_nil])
  | cons c more =>
      obtain ⟨rfl, -⟩ := List.cons.inj same
      exact .inr ⟨more, by rw [← title]; simp⟩

theorem title_not_cookie (noPriority : h.priority = none) {token : Text} (isToken : IsToken token)
    (rest : Text) :
    Text.trimLeft (h.title ++ (tagsText h.tags ++ blanks)) ≠ cookieOf token ++ rest := by
  intro same
  have noBlank : ∀ c ∈ cookieOf token, Text.isBlank c = false := by
    rw [cookieOf, List.forall_mem_cons, List.forall_mem_cons, List.forall_mem_append]
    exact ⟨by decide, by decide,
      fun c member => Text.isBlank_of_isAlphanumeric (isToken.alphanumeric c member),
      List.forall_mem_singleton.mpr (by decide)⟩
  have notColon : ∀ c ∈ (cookieOf token).head?, c ≠ ':' := by
    rintro c isFirst rfl
    cases isFirst
  exact writable.notCookie noPriority ⟨token, isToken, isPrefix_title blank writable
    (List.cons_ne_nil _ _) noBlank notColon same⟩

theorem takePriority_written :
    takePriority (Text.trimLeft (priorityText h.priority ++
        (h.title ++ (tagsText h.tags ++ blanks)))) =
      (h.priority, Text.trimLeft (h.title ++ (tagsText h.tags ++ blanks))) := by
  cases found : h.priority with
  | none =>
      rw [priorityText, List.nil_append]
      exact takePriority_eq_none fun token rest isToken =>
        title_not_cookie blank writable found isToken rest
  | some priority =>
      have bracket : Text.isBlank '[' = false := by decide
      rw [priorityText, List.append_assoc, cookieOf, List.cons_append,
        Text.trimLeft_cons_of_not_blank bracket, ← List.cons_append, ← cookieOf,
        takePriority_cookie (writable.priority priority found), List.singleton_append,
        Text.trimLeft_blank_cons (by decide)]

theorem takeMarks_written :
    takeMarks (todoText h.todo ++ (priorityText h.priority ++
        (h.title ++ (tagsText h.tags ++ blanks)))) =
      (h.todo, h.priority, Text.trimLeft (h.title ++ (tagsText h.tags ++ blanks))) := by
  have todo : takeTodo (Text.trimLeft (todoText h.todo ++ (priorityText h.priority ++
      (h.title ++ (tagsText h.tags ++ blanks))))) =
      (h.todo, Text.trimLeft (priorityText h.priority ++
        (h.title ++ (tagsText h.tags ++ blanks)))) := by
    cases found : h.todo with
    | none =>
        rw [todoText, List.nil_append]
        apply takeTodo_eq_none
        intro word rest isWord same
        cases foundPriority : h.priority with
        | none =>
            rw [foundPriority, priorityText, List.nil_append] at same
            exact title_not_todo blank writable found foundPriority isWord rest same
        | some priority =>
            have bracket : Text.isBlank '[' = false ∧ '['.isUpper = false := by decide
            rw [foundPriority, priorityText, cookieOf, List.cons_append, List.cons_append,
              Text.trimLeft_cons_of_not_blank bracket.1] at same
            obtain ⟨c, more, rfl⟩ := List.exists_cons_of_ne_nil isWord.nonempty
            obtain ⟨rfl, -⟩ := List.cons.inj same
            have isUpper := isWord.capitals '[' List.mem_cons_self
            rw [bracket.2] at isUpper
            cases isUpper
    | some todo =>
        have isWord := writable.todo todo found
        obtain ⟨c, more, word⟩ := List.exists_cons_of_ne_nil isWord.nonempty
        have solid : Text.isBlank c = false :=
          Text.isBlank_of_isUpper (isWord.capitals c (by simp [word]))
        rw [todoText, List.append_assoc, List.singleton_append]
        rw [word] at isWord ⊢
        rw [List.cons_append, Text.trimLeft_cons_of_not_blank solid, ← List.cons_append,
          takeTodo_word isWord, ← word]
  rw [takeMarks, todo]
  simp only [takePriority_written blank writable]

theorem takeTags_written :
    ∃ title, takeTags (Text.trimLeft (h.title ++ (tagsText h.tags ++ blanks))) = (h.tags, title) ∧
      Text.trim title = h.title := by
  by_cases noTags : h.tags = []
  · -- Behind the title there are blanks, or nothing where there is no title.
    have front : ∃ behind, (∀ c ∈ behind, Text.isBlank c = true) ∧
        Text.trimLeft (h.title ++ (tagsText h.tags ++ blanks)) = h.title ++ behind := by
      by_cases empty : h.title = []
      · rw [trimLeft_tagsText blank empty, if_pos noTags]
        exact ⟨[], by simp, by simp [empty]⟩
      · rw [Text.trimLeft_append_of_trim writable.title empty, tagsText, if_pos noTags]
        exact ⟨blanks, blank, rfl⟩
    obtain ⟨behind, blankBehind, front⟩ := front
    have trimmed : Text.trimRight (h.title ++ behind) = h.title := by
      rw [Text.trimRight_append_blanks blankBehind, Text.trimRight_of_trim writable.title]
    refine ⟨h.title ++ behind, ?_, Text.trim_append_blanks blankBehind writable.title⟩
    rw [front, noTags]
    exact takeTags_eq_nil (by rw [trimmed]; exact writable.notBlock noTags)
  · have areTags : AreTags h.tags := ⟨noTags, writable.tags⟩
    refine ⟨h.title, ?_, writable.title⟩
    by_cases empty : h.title = []
    · rw [trimLeft_tagsText blank empty, if_neg noTags, empty]
      exact takeTags_block [] areTags (by simp) blank
    · have read := takeTags_block (h.title ++ [' ']) areTags (by simp; decide) blank
      rw [List.dropLast_concat] at read
      rw [Text.trimLeft_append_of_trim writable.title empty, tagsText, if_neg noTags, ← read]
      simp

theorem ofLine?_lineText (kind : OutlineKind) :
    ofLine? kind h.line (h.lineText kind ++ blanks) =
      some { h with tags := distinct h.tags, properties := [], timestamp := none } := by
  obtain ⟨title, tags, trimmed⟩ := takeTags_written blank writable
  have marks := takeMarks_written blank writable
  have line : h.lineText kind ++ blanks = List.replicate h.depth kind.marker ++ ' ' ::
      (todoText h.todo ++ (priorityText h.priority ++
        (h.title ++ (tagsText h.tags ++ blanks)))) := by
    simp [lineText]
  have positive : h.depth ≠ 0 := Nat.ne_of_gt writable.depth
  rw [line]
  generalize todoText h.todo ++ (priorityText h.priority ++
    (h.title ++ (tagsText h.tags ++ blanks))) = rest at marks ⊢
  obtain ⟨markers, behind⟩ := replicate_marker_eq_takeWhile kind h.depth rest
  simp only [ofLine?, markers, behind, marks, tags, trimmed, List.isEmpty_replicate,
    List.length_replicate, decide_eq_false positive, Bool.false_eq_true, if_false]

end Line

theorem distinctAux_eq_eraseDups (seen texts : List Text) :
    distinctAux seen texts = (texts.filter fun t => !seen.contains t).eraseDups := by
  induction texts generalizing seen with
  | nil => rfl
  | cons t texts induction =>
      by_cases isSeen : seen.contains t = true
      · rw [distinctAux, if_pos isSeen, List.filter_cons_of_neg (by simpa using isSeen), induction]
      · rw [distinctAux, if_neg isSeen, List.filter_cons_of_pos (by simpa using isSeen), induction,
          List.eraseDups_cons, List.filter_filter]
        congr 3
        funext u
        rw [List.contains_cons, Bool.not_or]

/-- Of tags that are written repeatedly the first is kept. -/
theorem distinct_eq_eraseDups (texts : List Text) : distinct texts = texts.eraseDups := by
  rw [distinct, distinctAux_eq_eraseDups]
  simp

/-- A heading is read back from the line on which it is written, whatever blanks follow, and later
repetitions of a tag are dropped; nothing but markers and a space makes a line a heading. -/
theorem ofLine?_undoes_lineText (kind : OutlineKind) :
    (∀ (h : Heading) (blanks : Text), h.IsWritable → (∀ c ∈ blanks, Text.isBlank c = true) →
      ofLine? kind h.line (h.lineText kind ++ blanks) =
        some { h with tags := h.tags.eraseDups, properties := [], timestamp := none }) ∧
    ∀ number line, (ofLine? kind number line).isSome = true ↔ Marked kind line := by
  constructor
  · intro h blanks writable blank
    rw [ofLine?_lineText blank writable, distinct_eq_eraseDups]
  · intro number line
    exact isSome_ofLine?_iff kind number line

/-- A title that begins like a state behind a priority and holds a block of tags inside, and a
title that ends in a block of tags in front of the tags. -/
theorem ofLine?_undoes_lineText_of_likeness :
    ofLine? .org 7 "*** [#1] DONE :x: a\t ".toList =
        some ⟨7, 3, "DONE :x: a".toList, [], [], none, some ⟨"1".toList⟩, none⟩ ∧
      ofLine? .markdown 9 "# WAIT [#A :x: :b:a:b:".toList =
        some ⟨9, 1, "[#A :x:".toList, ["b".toList, "a".toList], [], some ⟨"WAIT".toList⟩, none,
          none⟩ := by
  have first : IsWritable ⟨7, 3, "DONE :x: a".toList, [], [], none, some ⟨"1".toList⟩, none⟩ := by
    refine ⟨by decide, by simp, ?_, by decide, by simp, by simp, by simp, ?_⟩
    · rintro priority isPriority
      obtain rfl := Option.some.inj isPriority
      exact ⟨by decide, List.all_eq_true.mp (by decide)⟩
    · rintro - ⟨before, tags, -, title, -⟩
      have last := congrArg List.getLast? title
      simp [blockOf, List.getLast?_append, List.getLast?_cons] at last
  have second : IsWritable ⟨9, 1, "[#A :x:".toList, ["b".toList, "a".toList, "b".toList], [],
      some ⟨"WAIT".toList⟩, none, none⟩ := by
    refine ⟨by decide, ?_, by simp, by decide, by decide +kernel, by simp, ?_, by simp⟩
    · rintro todo isTodo
      obtain rfl := Option.some.inj isTodo
      exact ⟨by decide, List.all_eq_true.mp (by decide)⟩
    · rintro - ⟨token, -, isPrefix⟩
      have bracket : ']' ∈ "[#A :x:".toList := isPrefix.subset (by simp [cookieOf])
      exact absurd bracket (by decide)
  have blank : ∀ c ∈ "\t ".toList, Text.isBlank c = true := List.all_eq_true.mp (by decide)
  exact ⟨(ofLine?_undoes_lineText .org).1 _ _ first blank,
    (ofLine?_undoes_lineText .markdown).1 _ [] second (by simp)⟩

end Heading

end OutlineSearch
