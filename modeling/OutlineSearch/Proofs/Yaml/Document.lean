import OutlineSearch.Proofs.Yaml.Leaf

/-!
# Tokens of sections

A file is sections, a section is fields, and the value of a field is a leaf or a list of leaves.
Items, fields and sections are parts of a block: each stands at the column of the block, and
behind it comes the next part or the end of the block.  What holds of one part is put together
to what holds of all of them.
-/

namespace OutlineSearch.Yaml

/-- A value that may stand in a section. -/
inductive IsFieldValue (limit : Option Nat) : Data → Prop where
  | leaf {d : Data} : IsLeaf limit d → IsFieldValue limit d
  | list {items : List Data} : (∀ d ∈ items, IsLeaf limit d) → IsFieldValue limit (.list items)

/-- The text of an item. -/
def itemText (d : Data) : Text := '-' :: ' ' :: scalarText false 4 4 d

/-- The text of a field. -/
def fieldText (field : Text × Data) : Text :=
  field.1 ++ ':' :: valueText true false 2 (2 + field.1.length + 1) field.2

/-- The tokens of an item. -/
def itemTokens (d : Data) : List Token := [.entry, leafToken d]

/-- The tokens of the value of a field. -/
def valueTokens : Data → List Token
  | .list [] => [.flowSequenceStart, .flowSequenceEnd]
  | .list items => items.flatMap itemTokens
  | d => [leafToken d]

/-- The tokens of a field. -/
def fieldTokens (field : Text × Data) : List Token :=
  .key :: .scalar field.1 true :: .value :: valueTokens field.2

/-- A section of a file, with the comment above it. -/
structure Section where
  comment : Text
  name : Text
  fields : List (Text × Data)

/-- The gap in front of an item or a field. -/
def nextLine : Text := gapText [[]] 2

/-- Parts of a block, each with the gap in front of it. -/
def partsText {α : Type} (gap text : α → Text) (parts : List α) : Text :=
  parts.flatMap fun part => gap part ++ text part

namespace Section

/-- The gap in front of a section that is not the first one. -/
def gap (x : Section) : Text := gapText [[], [], '#' :: x.comment] 0

/-- The text of a section without its comment. -/
def text (x : Section) : Text := x.name ++ ':' :: partsText (fun _ => nextLine) fieldText x.fields

/-- The tokens of a section. -/
def tokens (x : Section) : List Token :=
  .key :: .scalar x.name true :: .value :: .blockMappingStart ::
    (x.fields.flatMap fieldTokens ++ [.blockEnd])

/-- A section that is read back as it is written. -/
structure Proper (limit : Option Nat) (x : Section) : Prop where
  comment : ∀ c ∈ x.comment, IsInline c
  name : isKeyName x.name = true
  someFields : x.fields ≠ []
  distinct : (x.fields.map Prod.fst).Nodup
  fields : ∀ field ∈ x.fields, isKeyName field.1 = true ∧ IsFieldValue limit field.2

end Section

/-! ## Parts of a block -/

namespace Lexer

/-- A text that stands at a column for tokens, in a block whose parts stand there.  `indent` is
the column of the block that the reader is in. -/
def Lexes (indent : Int) (column : Nat) (text : Text) (tokens : List Token) : Prop :=
  ∀ ⦃outer : List Int⦄ ⦃before all : List Token⦄ ⦃s behind : Source⦄ ⦃r : Text⦄,
    s.column = column → s.rest = text ++ r → Source.EndsScalar 3 (s.skip text.length) behind →
    behind.column ≤ column →
    Yields (waiting true behind column (blocksAround column indent outer)
      (tokens.reverse ++ tokensBefore column indent before)) all →
    Yields (waiting true s indent outer before) all

@[simp] theorem partsText_nil {α : Type} (gap text : α → Text) : partsText gap text [] = [] := rfl

@[simp] theorem partsText_cons {α : Type} (gap text : α → Text) (part : α) (parts : List α) :
    partsText gap text (part :: parts) = gap part ++ (text part ++ partsText gap text parts) := by
  rw [partsText, List.flatMap_cons, List.append_assoc]
  rfl

theorem lexes_parts {α : Type} {gap text : α → Text} {tokens : α → List Token} {indent : Int}
    {column : Nat} {first : α} {rest : List α}
    (isFirst : Lexes indent column (text first) (tokens first))
    (others : ∀ part ∈ rest, Lexes column column (text part) (tokens part))
    (between : ∀ part ∈ rest, ∀ ⦃s : Source⦄ ⦃r : Text⦄, s.rest = gap part ++ (text part ++ r) →
      Source.EndsScalar 3 s (s.skip (gap part).length) ∧
        (s.skip (gap part).length).column = column) :
    Lexes indent column (text first ++ partsText gap text rest)
      ((first :: rest).flatMap tokens) := by
  induction rest generalizing indent first with
  | nil => simpa using isFirst
  | cons second rest induction =>
      rw [List.forall_mem_cons] at others between
      have more := induction others.1 others.2 between.2
      intro outer before all s behind r atColumn split ends deep yields
      have shape : s.rest = text first ++
          (gap second ++ (text second ++ (partsText gap text rest ++ r))) := by
        rw [split]
        simp
      have gapShape : (s.skip (text first).length).rest =
          gap second ++ (text second ++ (partsText gap text rest ++ r)) :=
            Source.rest_skip_append shape
      obtain ⟨gapEnds, place⟩ := between.1 gapShape
      refine isFirst atColumn shape gapEnds place.le ?_
      have length : (text first ++ partsText gap text (second :: rest)).length =
          (text first).length +
            ((gap second).length + (text second ++ partsText gap text rest).length) := by
        simp
      rw [length, Source.skip_add, Source.skip_add] at ends
      have moreShape : ((s.skip (text first).length).skip (gap second).length).rest =
          (text second ++ partsText gap text rest) ++ r := by
        rw [Source.rest_skip_append gapShape, List.append_assoc]
      refine more place moreShape ends deep ?_
      rw [blocksAround_self, tokensBefore_self]
      simpa [List.flatMap_cons] using yields

/-! ## Values of fields -/

variable {limit : Option Nat} {d : Data}

/-- A value that is no list, behind a colon or a dash in a block at column two. -/
theorem yields_leaf {keyAllowed : Bool} {outer : List Int} {before all : List Token}
    {s behind : Source} {r : Text} {column : Nat} (leaf : IsLeaf limit d) (deep : 2 ≤ s.column)
    (split : s.rest = ' ' :: (scalarText false 4 column d ++ r))
    (ends : Source.EndsScalar 3 (s.skip (scalarText false 4 column d).length.succ) behind)
    (yields : Yields (waiting true behind (2 : Nat) outer (leafToken d :: before)) all) :
    Yields (waiting keyAllowed s (2 : Nat) outer before) all := by
  have scalar : WritesScalar 3 (scalarText false 4 column d) (leafText d) (isPlainLeaf d) :=
    leaf.writesScalar (by decide) (by decide) (by decide) column
  have place := Source.rest_next_cons split
  have inside := Source.next_of_isInline split (by decide)
  refine yields_space split (scalar.startsToken r) ?_
  refine yields_scalar scalar place (Int.natCast_nonneg 2) ?_ ends yields
  rw [inside]
  dsimp only
  omega

theorem lexes_item (leaf : IsLeaf limit d) : Lexes (2 : Nat) 2 (itemText d) (itemTokens d) := by
  intro outer before all s behind r atColumn split ends deep yields
  have place := Source.rest_next_cons split
  have inside := Source.next_of_isInline split (by decide)
  rw [blocksAround_self, tokensBefore_self] at yields
  refine yields_entry split (by rw [atColumn]) ?_
  refine yields_leaf leaf ?_ place ends yields
  rw [inside]
  dsimp only
  omega

/-- A text that stands behind a colon for tokens, in a block at column two. -/
def LexesValue (text : Text) (tokens : List Token) : Prop :=
  ∀ ⦃outer : List Int⦄ ⦃before all : List Token⦄ ⦃s behind : Source⦄ ⦃r : Text⦄,
    2 < s.column → s.rest = text ++ r → Source.EndsScalar 3 (s.skip text.length) behind →
    behind.column ≤ 2 →
    Yields (waiting true behind (2 : Nat) outer (tokens.reverse ++ before)) all →
    Yields (waiting false s (2 : Nat) outer before) all

theorem lexesValue_emptyList :
    LexesValue " []".toList [.flowSequenceStart, .flowSequenceEnd] := by
  intro outer before all s behind r deep split ends _ yields
  have place : s.next.rest = '[' :: ']' :: r := Source.rest_next_cons split
  have inside := Source.next_of_isInline split (by decide)
  refine yields_space split (startsToken_cons (by decide) (by decide) (by decide)) ?_
  · refine yields_emptyList place ?_ ends yields
    rw [inside]
    dsimp only
    omega

theorem startsToken_itemText (d : Data) (r : Text) : StartsToken (itemText d ++ r) :=
  startsToken_cons (by decide) (by decide) (by decide)

/-- The next line is a gap in a block at column two. -/
theorem endsScalar_nextLine {s : Source} {r : Text} (split : s.rest = nextLine ++ r)
    (starts : StartsToken r) :
    Source.EndsScalar 3 s (s.skip nextLine.length) ∧ (s.skip nextLine.length).column = 2 := by
  have place := Source.skip_gap split (by simp [IsIdle])
  refine ⟨Source.endsScalar_near split starts (by decide) (.inl Nat.two_pos), ?_⟩
  rw [nextLine, place]
  rfl

theorem lexesValue_items {items : List Data} {first : Data} (leaf : IsLeaf limit first)
    (leaves : ∀ d ∈ items, IsLeaf limit d) :
    LexesValue (partsText (fun _ => nextLine) itemText (first :: items))
      ((first :: items).flatMap itemTokens) := by
  intro outer before all s behind r deep split ends shallow yields
  have parts : Lexes (2 : Nat) 2 (itemText first ++ partsText (fun _ => nextLine) itemText items)
      ((first :: items).flatMap itemTokens) :=
    lexes_parts (lexes_item leaf) (fun d member => lexes_item (leaves d member))
      fun d _ s r split => endsScalar_nextLine split (startsToken_itemText d r)
  rw [partsText_cons, List.length_append, Source.skip_add] at ends
  rw [partsText_cons, List.append_assoc] at split
  have place := Source.rest_skip_append split
  obtain ⟨gapEnds, atColumn⟩ := endsScalar_nextLine split (by
    rw [List.append_assoc]
    exact startsToken_itemText first _)
  refine yields_passes gapEnds.passes gapEnds.starts gapEnds.fewer.le ?_
  refine parts atColumn place ends shallow ?_
  rw [blocksAround_self, tokensBefore_self]
  exact yields

theorem itemsText_eq {items : List Data} (leaves : ∀ d ∈ items, IsLeaf limit d) (column : Nat) :
    itemsText false 2 column items = partsText (fun _ => nextLine) itemText items := by
  induction items generalizing column with
  | nil => rw [itemsText, partsText_nil]
  | cons d items induction =>
      rw [List.forall_mem_cons] at leaves
      rw [itemsText, induction leaves.2, leaves.1.valueText_eq, partsText_cons, List.append_assoc]
      rfl

theorem valueText_list (first : Data) (items : List Data) (column : Nat) :
    valueText true false 2 column (.list (first :: items)) =
      itemsText false 2 column (first :: items) := by
  rw [valueText]
  · rfl
  · exact List.cons_ne_nil first items

theorem lexesValue {value : Data} (isValue : IsFieldValue limit value) (column : Nat) :
    LexesValue (valueText true false 2 column value) (valueTokens value) := by
  cases isValue with
  | leaf leaf =>
      have tokens : valueTokens value = [leafToken value] := by cases leaf <;> rfl
      rw [leaf.valueText_eq, tokens]
      intro outer before all s behind r deep split ends _ yields
      exact yields_leaf leaf deep.le split ends yields
  | @list items leaves =>
      cases items with
      | nil =>
          rw [valueText]
          exact lexesValue_emptyList
      | cons first items =>
          rw [valueText_list, itemsText_eq leaves]
          rw [List.forall_mem_cons] at leaves
          exact lexesValue_items leaves.1 leaves.2

theorem head?_valueText {value : Data} (isValue : IsFieldValue limit value) (column : Nat)
    (r : Text) :
    endsWord (valueText true false 2 column value ++ r).head? = true := by
  cases isValue with
  | leaf leaf =>
      rw [leaf.valueText_eq]
      rfl
  | @list items leaves =>
      cases items with
      | nil =>
          rw [valueText]
          rfl
      | cons first items =>
          rw [valueText_list, itemsText]
          rfl

/-! ## Fields and sections -/

variable {field : Text × Data}

/-- The place behind a key with its colon. -/
theorem skip_key {name r : Text} {s : Source} (isKey : IsKey name)
    (split : s.rest = name ++ ':' :: r) :
    s.skip (name.length + 1) =
      ⟨r, s.column + (name.length + 1), s.line, s.index + (name.length + 1)⟩ := by
  have colon : s.rest = (name ++ [':']) ++ r := by
    rw [split, List.append_assoc]
    rfl
  have visible : ∀ c ∈ name ++ [':'], IsInline c := by
    intro c member
    rcases List.mem_append.mp member with inName | inColon
    · exact (isKey.word.visible c inName).1
    · obtain rfl := List.mem_singleton.mp inColon
      decide
  have length : (name ++ [':']).length = name.length + 1 := List.length_append
  rw [← length]
  exact Source.skip_of_isInline colon visible

theorem lexes_field (key : isKeyName field.1 = true) (isValue : IsFieldValue limit field.2)
    {indent : Int} (deep : indent ≤ (2 : Nat)) :
    Lexes indent 2 (fieldText field) (fieldTokens field) := by
  intro outer before all s behind r atColumn split ends shallow yields
  have isKey := isKey_of_isKeyName key
  have shape : s.rest = field.1 ++ ':' ::
      (valueText true false 2 (2 + field.1.length + 1) field.2 ++ r) := by
    rw [split, fieldText, List.append_assoc, List.cons_append]
  have behindKey := skip_key isKey shape
  refine yields_key isKey shape (head?_valueText isValue _ r) (by rw [atColumn]; exact deep) ?_
  rw [atColumn]
  have textLength : (fieldText field).length = (field.1.length + 1) +
      (valueText true false 2 (2 + field.1.length + 1) field.2).length := by
    rw [fieldText, List.length_append, List.length_cons]
    omega
  rw [textLength, Source.skip_add] at ends
  refine lexesValue isValue _ ?_ (by rw [behindKey]) ends shallow ?_
  · rw [behindKey]
    dsimp only
    omega
  · simpa [fieldTokens] using yields

theorem startsToken_fieldText (key : isKeyName field.1 = true) (r : Text) :
    StartsToken (fieldText field ++ r) := by
  rw [fieldText, List.append_assoc]
  exact (isKey_of_isKeyName key).word.startsToken _

theorem lexes_section {x : Section} (proper : x.Proper limit) {indent : Int}
    (deep : indent ≤ (0 : Nat)) :
    Lexes indent 0 x.text x.tokens := by
  intro outer before all s behind r atColumn split ends shallow yields
  have isKey := isKey_of_isKeyName proper.name
  obtain ⟨first, rest, fields⟩ := List.exists_cons_of_ne_nil proper.someFields
  have areFields := proper.fields
  rw [fields, List.forall_mem_cons] at areFields
  have parts : Lexes (0 : Nat) 2 (fieldText first ++ partsText (fun _ => nextLine) fieldText rest)
      ((first :: rest).flatMap fieldTokens) :=
    lexes_parts (lexes_field areFields.1.1 areFields.1.2 (by decide))
      (fun f member => lexes_field (areFields.2 f member).1 (areFields.2 f member).2 le_rfl)
      fun f member s r split =>
        endsScalar_nextLine split (startsToken_fieldText (areFields.2 f member).1 r)
  have text : x.text = x.name ++ ':' ::
      (nextLine ++ (fieldText first ++ partsText (fun _ => nextLine) fieldText rest)) := by
    rw [Section.text, fields, partsText_cons]
  have shape : s.rest = x.name ++ ':' ::
      (nextLine ++ ((fieldText first ++ partsText (fun _ => nextLine) fieldText rest) ++ r)) := by
    rw [split, text, List.append_assoc, List.cons_append, List.append_assoc]
  have behindKey := skip_key isKey shape
  have length : x.text.length = (x.name.length + 1) + (nextLine.length +
      (fieldText first ++ partsText (fun _ => nextLine) fieldText rest).length) := by
    rw [text, List.length_append, List.length_cons, List.length_append]
    omega
  rw [length, Source.skip_add, Source.skip_add] at ends
  refine yields_key isKey shape rfl (by rw [atColumn]; exact deep) ?_
  rw [atColumn]
  have behindColon : (s.skip (x.name.length + 1)).rest =
      nextLine ++ ((fieldText first ++ partsText (fun _ => nextLine) fieldText rest) ++ r) := by
    rw [behindKey]
  have starts : StartsToken
      ((fieldText first ++ partsText (fun _ => nextLine) fieldText rest) ++ r) := by
    rw [List.append_assoc]
    exact startsToken_fieldText areFields.1.1 _
  obtain ⟨gapEnds, inBlock⟩ := endsScalar_nextLine behindColon starts
  refine yields_passes gapEnds.passes gapEnds.starts gapEnds.fewer.le ?_
  refine parts inBlock (Source.rest_skip_append behindColon) ends (shallow.trans (by decide)) ?_
  refine yields_blockEnd ends.starts (by omega) ?_
  simpa [Section.tokens, fields, tokensBefore] using yields

end Lexer

/-! ## The whole text -/

open Lexer (WritesScalar)

/-- A text of visible characters, spaces and line feeds. -/
def IsSimple (t : Text) : Prop := ∀ c ∈ t, Style.isSimple c = true

theorem isSimple_append {front back : Text} (isFront : IsSimple front) (isBack : IsSimple back) :
    IsSimple (front ++ back) := List.forall_mem_append.mpr ⟨isFront, isBack⟩

theorem isSimple_cons {c : Char} {t : Text} (first : Style.isSimple c = true) (rest : IsSimple t) :
    IsSimple (c :: t) := List.forall_mem_cons.mpr ⟨first, rest⟩

theorem isSimple_gapText {lines : List Text} (idle : ∀ line ∈ lines, IsIdle line) (indent : Nat) :
    IsSimple (gapText lines indent) := by
  refine isSimple_append ?_ (isSimple_of_isInline fun c => isInline_of_mem_spaces)
  intro c member
  obtain ⟨line, isLine, inLine⟩ := List.mem_flatMap.mp member
  have ends : IsSimple ['\n'] := by simp [IsSimple, Style.isSimple]
  exact isSimple_append (isSimple_of_isInline (idle line isLine).visible) ends c inLine

theorem isSimple_partsText {α : Type} {gap text : α → Text} {parts : List α}
    (gaps : ∀ part ∈ parts, IsSimple (gap part)) (texts : ∀ part ∈ parts, IsSimple (text part)) :
    IsSimple (partsText gap text parts) := by
  intro c member
  obtain ⟨part, isPart, inPart⟩ := List.mem_flatMap.mp member
  exact isSimple_append (gaps part isPart) (texts part isPart) c inPart

theorem isSimple_nextLine : IsSimple nextLine := isSimple_gapText (by simp [IsIdle]) 2

theorem Lexer.WritesScalar.isSimple {least : Nat} {written text : Text} {plain : Bool}
    (scalar : WritesScalar least written text plain) : IsSimple written := by
  cases scalar with
  | @quoted double written text spells =>
      have quote : Style.isSimple (quoteOf double) = true := by cases double <;> rfl
      exact isSimple_cons quote
        (isSimple_append spells.isSimple (isSimple_cons quote (by simp [IsSimple])))
  | plain flows _ => exact flows.isSimple

variable {limit : Option Nat}

theorem IsLeaf.isSimple {d : Data} (leaf : IsLeaf limit d) (column : Nat) :
    IsSimple (scalarText false 4 column d) :=
  have scalar : WritesScalar 3 (scalarText false 4 column d) (leafText d) (isPlainLeaf d) :=
    leaf.writesScalar (by decide) (by decide) (by decide) column
  scalar.isSimple

theorem IsFieldValue.isSimple {value : Data} (isValue : IsFieldValue limit value) (column : Nat) :
    IsSimple (valueText true false 2 column value) := by
  cases isValue with
  | leaf leaf =>
      rw [leaf.valueText_eq]
      exact isSimple_cons rfl (leaf.isSimple (column + 1))
  | @list items leaves =>
      cases items with
      | nil =>
          rw [valueText]
          simp [IsSimple, Style.isSimple]
      | cons first items =>
          rw [Lexer.valueText_list, Lexer.itemsText_eq leaves]
          exact isSimple_partsText (fun _ _ => isSimple_nextLine)
            fun d member => isSimple_cons rfl (isSimple_cons rfl ((leaves d member).isSimple 4))

theorem isSimple_fieldText {field : Text × Data} (key : isKeyName field.1 = true)
    (isValue : IsFieldValue limit field.2) : IsSimple (fieldText field) :=
  have word := (isKey_of_isKeyName key).word
  isSimple_append (isSimple_of_isInline fun c member => (word.visible c member).1)
    (isSimple_cons rfl (isValue.isSimple _))

theorem Section.Proper.isIdle_comment {x : Section} (proper : x.Proper limit) :
    IsIdle ('#' :: x.comment) := .inr ⟨x.comment, rfl, proper.comment⟩

theorem Section.Proper.isSimple {x : Section} (proper : x.Proper limit) : IsSimple x.text :=
  have word := (isKey_of_isKeyName proper.name).word
  isSimple_append (isSimple_of_isInline fun c member => (word.visible c member).1)
    (isSimple_cons rfl (isSimple_partsText (fun _ _ => isSimple_nextLine) fun field member =>
      isSimple_fieldText (proper.fields field member).1 (proper.fields field member).2))

/-- The text of a file with lines in front of its first section. -/
def documentText (head : List Text) (first : Section) (rest : List Section) : Text :=
  gapText (head ++ ['#' :: first.comment]) 0 ++
    ((first.text ++ partsText Section.gap Section.text rest) ++ gapText [[]] 0)

/-- The tokens of a file. -/
def documentTokens (sections : List Section) : List Token :=
  .blockMappingStart :: (sections.flatMap Section.tokens ++ [.blockEnd])

theorem isSimple_documentText {head : List Text} {first : Section} {rest : List Section}
    (idle : ∀ line ∈ head, IsIdle line) (isFirst : first.Proper limit)
    (others : ∀ x ∈ rest, x.Proper limit) : IsSimple (documentText head first rest) := by
  have isHead : ∀ line ∈ head ++ ['#' :: first.comment], IsIdle line :=
    List.forall_mem_append.mpr ⟨idle, by simpa using isFirst.isIdle_comment⟩
  refine isSimple_append (isSimple_gapText isHead 0)
    (isSimple_append (isSimple_append isFirst.isSimple
    (isSimple_partsText (fun x member => ?_) fun x member => (others x member).isSimple))
    (isSimple_gapText (by simp [IsIdle]) 0))
  exact isSimple_gapText (by simpa [IsIdle] using (others x member).comment) 0

namespace Lexer

section Document

variable {head : List Text} {first : Section} {rest : List Section}
  (idle : ∀ line ∈ head, IsIdle line) (isFirst : first.Proper limit)
  (others : ∀ x ∈ rest, x.Proper limit)

include idle isFirst others

omit idle in
theorem lexes_sections : Lexes (-1) 0 (first.text ++ partsText Section.gap Section.text rest)
    ((first :: rest).flatMap Section.tokens) := by
  refine lexes_parts (lexes_section isFirst (by decide))
    (fun x member => lexes_section (others x member) le_rfl) fun x member s r split => ?_
  have starts : StartsToken (x.text ++ r) := by
    rw [Section.text, List.append_assoc]
    exact (isKey_of_isKeyName (others x member).name).word.startsToken _
  have place := Source.skip_gap split (by simpa [IsIdle] using (others x member).comment)
  refine ⟨Source.endsScalar_far split (others x member).comment starts, ?_⟩
  rw [Section.gap, place]
  rfl

theorem yields_document {s : Source} (split : s.rest = documentText head first rest) :
    Yields (waiting true s (-1) [] []) (documentTokens (first :: rest)) := by
  have isHead : ∀ line ∈ head ++ ['#' :: first.comment], IsIdle line :=
    List.forall_mem_append.mpr ⟨idle, by simpa using isFirst.isIdle_comment⟩
  have starts : StartsToken
      ((first.text ++ partsText Section.gap Section.text rest) ++ gapText [[]] 0) := by
    rw [Section.text, List.append_assoc, List.append_assoc]
    exact (isKey_of_isKeyName isFirst.name).word.startsToken _
  have atFirst := Source.skip_gap split isHead
  have placeFirst := Source.rest_skip_append split
  have atEnd := Source.rest_skip_append placeFirst
  have noMore : StartsToken [] := by simp [StartsToken]
  generalize place : s.skip (gapText (head ++ ['#' :: first.comment]) 0).length = start
    at atFirst placeFirst atEnd
  generalize endPlace : start.skip
    (first.text ++ partsText Section.gap Section.text rest).length = finish at atEnd
  have emptyLine : finish.rest = gapText [[]] 0 ++ [] := by rw [atEnd, List.append_nil]
  have atEndOfText := Source.skip_gap emptyLine (by simp [IsIdle])
  have ends : Source.EndsScalar 3 finish (finish.skip (gapText [[]] 0).length) :=
    Source.endsScalar_near emptyLine noMore (by decide) (.inr rfl)
  rw [← endPlace] at ends
  have passes := Source.passes_gap split isHead starts
  rw [place] at passes
  refine yields_passes passes (by rw [placeFirst]; exact starts) ?_ ?_
  · rw [← place, Source.rest_skip, List.length_drop]
    omega
  · rw [Bool.true_or]
    refine lexes_sections isFirst others ?_ placeFirst ends ?_ ?_
    · rw [atFirst]
      simp
    · rw [endPlace, atEndOfText]
      simp
    · have empty : (finish.skip (gapText [[]] 0).length).rest = [] := by rw [atEndOfText]
      have tokens : documentTokens (first :: rest) = (.blockEnd ::
          (((first :: rest).flatMap Section.tokens).reverse ++ [.blockMappingStart])).reverse := by
        simp [documentTokens]
      rw [tokens, endPlace]
      exact yields_end empty

end Document

end Lexer

/-- The text of a file is read as its tokens. -/
theorem tokensOf_documentText {limit : Option Nat} {head : List Text} {first : Section}
    {rest : List Section} (idle : ∀ line ∈ head, IsIdle line) (isFirst : first.Proper limit)
    (others : ∀ x ∈ rest, x.Proper limit) :
    tokensOf (documentText head first rest) = .ok (documentTokens (first :: rest)) := by
  have allowed : (documentText head first rest).find? (fun c => !isAllowed c) = none := by
    rw [List.find?_eq_none]
    intro c member
    rcases (isSimple_iff c).mp (isSimple_documentText idle isFirst others c member)
      with rfl | visible
    · decide
    · rw [visible.isAllowed_eq_true]
      decide
  have noMark : (Source.ofText (documentText head first rest)).isAt byteOrderMark = false := by
    rw [Source.isAt, beq_eq_false_iff_ne]
    intro mark
    have simple := isSimple_documentText idle isFirst others _ (List.mem_of_head? mark)
    exact absurd simple (by decide)
  have start : Lexer.start (documentText head first rest) =
      Lexer.waiting true (Source.ofText (documentText head first rest)) (-1) [] [] := by
    rw [Lexer.start, noMark]
    rfl
  rw [tokensOf, allowed, start]
  exact Lexer.yields_document idle isFirst others rfl _ (Nat.lt_succ_self _)

end OutlineSearch.Yaml
