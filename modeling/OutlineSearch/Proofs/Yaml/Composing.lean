import OutlineSearch.Proofs.Outcomes
import OutlineSearch.Proofs.Records
import OutlineSearch.Proofs.Strict
import OutlineSearch.Proofs.Yaml.Document

/-!
# Nodes of sections

The tokens of a file are put together to one node, a mapping of sections, and the node denotes
the data that was written.  No reader needs more steps than there are tokens, with a few to
spare.
-/

namespace OutlineSearch.Yaml

namespace Node

/-- In the value of an entry tokens are put together to a node, whatever follows them that is
no item. -/
def Composes (tokens : List Token) (node : Node) : Prop :=
  ∀ ⦃limit : Nat⦄ ⦃rest : List Token⦄ ⦃anchors : List (Text × Node)⦄ ⦃handles : List (Text × Text)⦄,
    tokens.length + 3 ≤ limit → rest.head? ≠ some .entry →
    readUnless none [.key, .value, .blockEnd] ⟨true, true⟩ limit
      ⟨tokens ++ rest, anchors, handles⟩ = .ok (node, ⟨rest, anchors, handles⟩)

section Lists

variable {limit : Nat} {rest : List Token} {anchors : List (Text × Node)}
  {handles : List (Text × Text)}

theorem composes_leaf (d : Data) : Composes [leafToken d] (leafNode d) := by
  intro limit rest anchors handles enough _
  rw [List.length_singleton] at enough
  obtain ⟨limit, rfl⟩ := Nat.exists_eq_add_of_le' enough
  rfl

theorem composes_emptyList :
    Composes [.flowSequenceStart, .flowSequenceEnd] (.sequence .seq []) := by
  intro limit rest anchors handles enough _
  rw [List.length_cons, List.length_singleton] at enough
  obtain ⟨limit, rfl⟩ := Nat.exists_eq_add_of_le' enough
  rfl

theorem readLooseItems_stop (stops : rest.head? ≠ some .entry) :
    readLooseItems none (limit + 1) ⟨rest, anchors, handles⟩ =
      .ok ([], ⟨rest, anchors, handles⟩) := by
  cases rest with
  | nil => rfl
  | cons t rest =>
      cases t with
      | entry => exact absurd rfl stops
      | _ => rfl

theorem readLooseItems_item (d : Data) :
    readLooseItems none (limit + 3) ⟨itemTokens d ++ rest, anchors, handles⟩ =
      readLooseItems none (limit + 2) ⟨rest, anchors, handles⟩ >>= fun (items, c) =>
        .ok (leafNode d :: items, c) := rfl

theorem readLooseItems_items (items : List Data) (enough : items.length + 2 ≤ limit)
    (stops : rest.head? ≠ some .entry) :
    readLooseItems none limit ⟨items.flatMap itemTokens ++ rest, anchors, handles⟩ =
      .ok (items.map leafNode, ⟨rest, anchors, handles⟩) := by
  induction items generalizing limit with
  | nil =>
      obtain ⟨limit, rfl⟩ := Nat.exists_eq_add_of_le' enough
      exact readLooseItems_stop stops
  | cons d items induction =>
      rw [List.length_cons] at enough
      obtain ⟨limit, rfl⟩ := Nat.exists_eq_add_of_le' enough
      have more : readLooseItems none (limit + items.length + 2)
            ⟨items.flatMap itemTokens ++ rest, anchors, handles⟩ =
          .ok (items.map leafNode, ⟨rest, anchors, handles⟩) := induction (by omega)
      have length : limit + (items.length + 1 + 2) = (limit + items.length) + 3 := by omega
      rw [List.flatMap_cons, List.append_assoc, length, readLooseItems_item, more]
      rfl

theorem length_flatMap_itemTokens (items : List Data) :
    (items.flatMap itemTokens).length = 2 * items.length := by
  induction items with
  | nil => rfl
  | cons d items induction =>
      rw [List.flatMap_cons, List.length_append, induction, List.length_cons]
      change 2 + 2 * items.length = _
      omega

theorem readUnless_items (tokens : List Token) :
    readUnless none [.key, .value, .blockEnd] ⟨true, true⟩ (limit + 2)
      ⟨.entry :: tokens, anchors, handles⟩ =
      readLooseItems none limit ⟨.entry :: tokens, anchors, handles⟩ >>= fun (items, c) =>
        .ok (.sequence .seq items, c) := rfl

theorem composes_items (first : Data) (items : List Data) :
    Composes ((first :: items).flatMap itemTokens)
      (.sequence .seq ((first :: items).map leafNode)) := by
  intro limit rest anchors handles enough stops
  rw [length_flatMap_itemTokens, List.length_cons] at enough
  obtain ⟨limit, rfl⟩ := Nat.exists_eq_add_of_le' enough
  have items' : readLooseItems none (limit + 2 * items.length + 3)
      ⟨(first :: items).flatMap itemTokens ++ rest, anchors, handles⟩ =
        .ok ((first :: items).map leafNode, ⟨rest, anchors, handles⟩) :=
    readLooseItems_items (first :: items) (by rw [List.length_cons]; omega) stops
  have length : limit + (2 * (items.length + 1) + 3) =
      (limit + 2 * items.length + 3) + 2 := by omega
  rw [length]
  refine (readUnless_items _).trans ?_
  change readLooseItems none _
    ⟨(first :: items).flatMap itemTokens ++ rest, anchors, handles⟩ >>= _ = _
  rw [items']
  rfl

end Lists

/-! ## Mappings -/

/-- The node that the value of a field is written as. -/
def ofFieldValue : Data → Node
  | .list items => .sequence .seq (items.map leafNode)
  | d => leafNode d

theorem composes_fieldValue {limit : Option Nat} {value : Data}
    (isValue : IsFieldValue limit value) :
    Composes (valueTokens value) (ofFieldValue value) := by
  cases isValue with
  | leaf leaf => cases leaf <;> exact composes_leaf _
  | @list items _ =>
      cases items with
      | nil => exact composes_emptyList
      | cons first items => exact composes_items first items

section Mappings

variable {α : Type} (name : α → Text) (tokens : α → List Token) (node : α → Node)

/-- The tokens of an entry. -/
def entryTokens (part : α) : List Token :=
  .key :: .scalar (name part) true :: .value :: tokens part

/-- The node of a mapping. -/
def ofEntries (parts : List α) : Node :=
  .mapping .map (parts.map fun part => (.scalar .str (name part), node part))

variable {name tokens node} {limit : Nat} {rest : List Token} {anchors : List (Text × Node)}
  {handles : List (Text × Text)}

theorem readEntries_entry (name : Text) :
    readEntries none (limit + 3) ⟨.key :: .scalar name true :: .value :: rest, anchors, handles⟩ =
      readUnless none [.key, .value, .blockEnd] ⟨true, true⟩ (limit + 2)
          ⟨rest, anchors, handles⟩ >>= fun (v, c) =>
        readEntries none (limit + 2) c >>= fun (entries, c) =>
          .ok ((.scalar (Tag.ofPlain name) name, v) :: entries, c) := rfl

theorem readEntries_entries {parts : List α} (keys : ∀ part ∈ parts, Tag.ofPlain (name part) = .str)
    (composes : ∀ part ∈ parts, Composes (tokens part) (node part))
    (enough : (parts.flatMap (entryTokens name tokens)).length + 2 ≤ limit) :
    readEntries none limit
        ⟨parts.flatMap (entryTokens name tokens) ++ .blockEnd :: rest, anchors, handles⟩ =
      .ok (parts.map fun part => (.scalar .str (name part), node part),
        ⟨rest, anchors, handles⟩) := by
  induction parts generalizing limit with
  | nil =>
      obtain ⟨limit, rfl⟩ := Nat.exists_eq_add_of_le' enough
      rfl
  | cons part parts induction =>
      rw [List.forall_mem_cons] at keys composes
      have length : ((part :: parts).flatMap (entryTokens name tokens)).length =
          (tokens part).length + 3 + (parts.flatMap (entryTokens name tokens)).length := by
        rw [List.flatMap_cons, List.length_append]
        rfl
      rw [length] at enough
      obtain ⟨limit, rfl⟩ := Nat.exists_eq_add_of_le' (le_trans (by omega : 3 ≤ _) enough)
      have stops : (parts.flatMap (entryTokens name tokens) ++ .blockEnd :: rest).head? ≠
          some .entry := by
        cases parts <;> simp [entryTokens]
      have value := @composes.1 (limit + 2) _ anchors handles (by omega) stops
      have more : readEntries none (limit + 2)
          ⟨parts.flatMap (entryTokens name tokens) ++ .blockEnd :: rest, anchors, handles⟩ =
            .ok (parts.map fun part => (.scalar .str (name part), node part),
              ⟨rest, anchors, handles⟩) :=
        induction keys.2 composes.2 (by omega)
      rw [List.flatMap_cons, List.append_assoc, entryTokens, List.cons_append, List.cons_append,
        List.cons_append, readEntries_entry, value]
      dsimp only [bind, Except.bind]
      rw [more, keys.1]
      rfl

theorem read_blockMapping (entries : Bool) :
    read none ⟨true, entries⟩ (limit + 1) ⟨.blockMappingStart :: rest, anchors, handles⟩ =
      readEntries none limit ⟨rest, anchors, handles⟩ >>= fun (entries, c) =>
        .ok (.mapping .map entries, c) := rfl

theorem read_mapping {parts : List α} (keys : ∀ part ∈ parts, Tag.ofPlain (name part) = .str)
    (composes : ∀ part ∈ parts, Composes (tokens part) (node part))
    (enough : (parts.flatMap (entryTokens name tokens)).length + 3 ≤ limit) (entries : Bool) :
    read none ⟨true, entries⟩ limit ⟨.blockMappingStart ::
      (parts.flatMap (entryTokens name tokens) ++ .blockEnd :: rest), anchors, handles⟩ =
      .ok (ofEntries name node parts, ⟨rest, anchors, handles⟩) := by
  obtain ⟨limit, rfl⟩ := Nat.exists_eq_add_of_le' (le_trans (by omega : 1 ≤ _) enough)
  have whole : readEntries none limit
      ⟨parts.flatMap (entryTokens name tokens) ++ .blockEnd :: rest, anchors, handles⟩ = _ :=
    readEntries_entries keys composes (by omega)
  rw [read_blockMapping, whole]
  rfl

theorem composes_mapping {parts : List α} (keys : ∀ part ∈ parts, Tag.ofPlain (name part) = .str)
    (composes : ∀ part ∈ parts, Composes (tokens part) (node part)) :
    Composes (.blockMappingStart :: (parts.flatMap (entryTokens name tokens) ++ [.blockEnd]))
      (ofEntries name node parts) := by
  intro limit rest anchors handles enough _
  rw [List.length_cons, List.length_append, List.length_singleton] at enough
  obtain ⟨limit, rfl⟩ := Nat.exists_eq_add_of_le' (le_trans (by omega : 1 ≤ _) enough)
  rw [List.cons_append, List.append_assoc]
  exact read_mapping keys composes (by omega) true

end Mappings

end Node

/-! ## The node of a file -/

/-- The node of a section. -/
def Section.node (x : Section) : Node :=
  Node.ofEntries Prod.fst (fun field => .ofFieldValue field.2) x.fields

variable {limit : Option Nat}

theorem ofPlain_of_isKeyName {name : Text} (key : isKeyName name = true) :
    Tag.ofPlain name = .str := by
  have tag := scalarTag_text name
  rw [ofText_of_isKeyName key false] at tag
  exact tag

theorem Section.Proper.composes {x : Section} (proper : x.Proper limit) :
    Node.Composes (.blockMappingStart :: (x.fields.flatMap fieldTokens ++ [.blockEnd])) x.node :=
  Node.composes_mapping (fun field member => ofPlain_of_isKeyName (proper.fields field member).1)
    fun field member => Node.composes_fieldValue (proper.fields field member).2

theorem ofTokens_documentTokens {sections : List Section}
    (proper : ∀ x ∈ sections, x.Proper limit) :
    Node.ofTokens none (documentTokens sections) =
      .ok (some (.ofEntries Section.name Section.node sections)) := by
  have node : Node.read none ⟨true, false⟩ (3 * (documentTokens sections).length + 3)
      ⟨documentTokens sections, [], Node.commonHandles⟩ =
        .ok (.ofEntries Section.name Section.node sections, ⟨[], [], Node.commonHandles⟩) := by
    refine Node.read_mapping (fun x member => ofPlain_of_isKeyName (proper x member).name)
      (fun x member => (proper x member).composes) ?_ false
    have length : (documentTokens sections).length =
        (sections.flatMap Section.tokens).length + 2 := by
      rw [documentTokens, List.length_cons, List.length_append, List.length_singleton]
    rw [length]
    change (sections.flatMap Section.tokens).length + 3 ≤ _
    omega
  change Node.read none ⟨true, false⟩ (3 * (documentTokens sections).length + 3)
      ⟨documentTokens sections, [], Node.commonHandles⟩ >>= _ = _
  rw [node]
  rfl

/-! ## The data of a file -/

theorem put_of_new {key value : Data} {found : List (Data × Data)}
    (isNew : ∀ entry ∈ found, Data.sameKey entry.1 key = false) :
    Data.put key value found = found ++ [(key, value)] := by
  induction found with
  | nil => rfl
  | cons entry found induction =>
      rw [List.forall_mem_cons] at isNew
      rw [Data.put, isNew.1, if_neg Bool.false_ne_true, induction isNew.2, List.cons_append]

/-- An entry whose key is a text. -/
def textEntry (field : Text × Data) : Data × Data := (.text field.1, field.2)

theorem foldl_put {found entries : List (Text × Data)}
    (distinct : (found.map Prod.fst ++ entries.map Prod.fst).Nodup) :
    (entries.map textEntry).foldl (fun found (k, v) => Data.put k v found) (found.map textEntry) =
      (found ++ entries).map textEntry := by
  induction entries generalizing found with
  | nil => simp
  | cons entry entries induction =>
      have isNew : ∀ other ∈ found.map textEntry, Data.sameKey other.1 (.text entry.1) = false := by
        intro other member
        obtain ⟨field, isField, rfl⟩ := List.mem_map.mp member
        have differ : field.1 ≠ entry.1 :=
          (List.nodup_append.mp distinct).2.2 field.1 (List.mem_map_of_mem isField) entry.1
            (by simp)
        simpa [textEntry, Data.sameKey] using differ
      have more := @induction (found ++ [entry]) (by simpa using distinct)
      rw [List.map_cons, List.foldl_cons]
      change (entries.map textEntry).foldl _
          (Data.put (.text entry.1) entry.2 (found.map textEntry)) = _
      rw [put_of_new isNew]
      simpa [textEntry] using more

theorem mapOf_textEntries {entries : List (Text × Data)} (distinct : (entries.map Prod.fst).Nodup) :
    Data.mapOf (entries.map textEntry) = .map (entries.map textEntry) := by
  have whole := @foldl_put [] entries distinct
  rw [Data.mapOf]
  exact congrArg Data.map whole

section Values

variable {α : Type} {name : α → Text} {node : α → Node} {value : α → Data}

theorem made_of_valueOf {n : Node} {d : Data} (denotes : valueOf limit n = .ok d) :
    made limit n.tag n = .ok d :=
  (Outcome.mapError_eq_ok_iff _ _ _).mp denotes

/-- Values that can all be made are made together, whatever the round. -/
theorem all_map_ok (f : α → Data × Data) (parts : List α) :
    Staged.all (parts.map fun part => .ok (f part)) = .ok (parts.map f) := by
  induction parts with
  | nil => rfl
  | cons part parts induction =>
      rw [List.map_cons, Staged.all, induction]
      rfl

theorem merges_parts (parts : List α) :
    merges (parts.map fun part => (.scalar .str (name part), node part)) = true := by
  induction parts with
  | nil => rfl
  | cons part parts induction =>
      rw [List.map_cons, merges, induction]
      rfl

theorem madeEntries_parts {parts : List α}
    (denotes : ∀ part ∈ parts, valueOf limit (node part) = .ok (value part)) :
    madeEntries limit (parts.map fun part => (.scalar .str (name part), node part)) =
      ([], parts.map fun part => .ok (textEntry (name part, value part))) := by
  induction parts with
  | nil => rw [List.map_nil, List.map_nil, madeEntries]
  | cons part parts induction =>
      rw [List.forall_mem_cons] at denotes
      have key : made limit (keyTag .str) (.scalar .str (name part)) = .ok (.text (name part)) :=
        rfl
      rw [List.map_cons, madeEntries, induction denotes.2, made_of_valueOf denotes.1, Node.tag, key]
      rfl

/-- A mapping whose keys are different denotes a map. -/
theorem valueOf_ofEntries {parts : List α} (distinct : (parts.map name).Nodup)
    (denotes : ∀ part ∈ parts, valueOf limit (node part) = .ok (value part)) :
    valueOf limit (.ofEntries name node parts) =
      .ok (.map (parts.map fun part => textEntry (name part, value part))) := by
  have entries : (parts.map fun part => textEntry (name part, value part)) =
      (parts.map fun part => (name part, value part)).map textEntry := by
    rw [List.map_map]
    rfl
  rw [Node.ofEntries, valueOf, Node.tag, made, madeEntries_parts denotes]
  dsimp only
  rw [merges_parts, if_pos rfl, List.nil_append, all_map_ok, entries, ← mapOf_textEntries]
  · rfl
  · simpa [Function.comp_def] using distinct

end Values

theorem all_madeEach_leaves {items : List Data} (leaves : ∀ d ∈ items, IsLeaf limit d) :
    Staged.all (madeEach limit (items.map leafNode)) = .ok items := by
  induction items with
  | nil => rw [List.map_nil, madeEach, Staged.all]
  | cons d items induction =>
      rw [List.forall_mem_cons] at leaves
      rw [List.map_cons, madeEach, Staged.all, made_of_valueOf leaves.1.valueOf_leafNode,
        induction leaves.2]
      rfl

theorem valueOf_ofFieldValue {value : Data} (isValue : IsFieldValue limit value) :
    valueOf limit (.ofFieldValue value) = .ok value := by
  cases isValue with
  | leaf leaf =>
      have same : Node.ofFieldValue value = leafNode value := by cases leaf <;> rfl
      rw [same, leaf.valueOf_leafNode]
  | list leaves =>
      rw [Node.ofFieldValue, valueOf, Node.tag, made, all_madeEach_leaves leaves]
      rfl

/-- The data of a section. -/
def Section.data (x : Section) : Data := .map (x.fields.map textEntry)

/-- The data of sections. -/
def sectionsData (sections : List Section) : List (Data × Data) :=
  sections.map fun x => textEntry (x.name, x.data)

theorem Section.Proper.valueOf_node {x : Section} (proper : x.Proper limit) :
    valueOf limit x.node = .ok x.data :=
  valueOf_ofEntries proper.distinct fun field member =>
    valueOf_ofFieldValue (proper.fields field member).2

/-- The text of a file is read back as its sections. -/
theorem load_documentText {head : List Text} {first : Section} {rest : List Section}
    (idle : ∀ line ∈ head, IsIdle line) (proper : ∀ x ∈ first :: rest, x.Proper limit)
    (distinct : ((first :: rest).map Section.name).Nodup) :
    load (documentText head first rest) limit =
      .ok (some (.map (sectionsData (first :: rest)))) := by
  have each := List.forall_mem_cons.mp proper
  rw [load, Node.ofText, tokensOf_documentText idle each.1 each.2]
  dsimp only
  rw [ofTokens_documentTokens proper]
  dsimp only [bind, Except.bind]
  rw [valueOf_ofEntries distinct fun x member => (proper x member).valueOf_node]
  rfl

end OutlineSearch.Yaml
