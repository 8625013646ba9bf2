import OutlineSearch.Proofs.Yaml.Lexing

/-!
# Values that are no collections

A word or a number is written as one plain scalar and looks like what it is; a text is written
in whatever style keeps it a text.  Either way the scalar that is read back denotes the value.
-/

namespace OutlineSearch.Yaml

open Lexer (WritesScalar BeginsPlain IsKey)

/-- A value that can be written as a scalar and read back.  `limit` is the most digits that a
decimal numeral may have, if their number is bounded. -/
inductive IsLeaf (limit : Option Nat) : Data → Prop where
  | null : IsLeaf limit .null
  | bool (b : Bool) : IsLeaf limit (.bool b)
  | int {n : Nat} : (∀ most ∈ limit, (Text.ofNat n).length ≤ most) → IsLeaf limit (.int n)
  | float {significand : Nat} {exponent : Int} (negative : Bool)
      (standard : Binary64.IsStandard significand exponent) :
      IsLeaf limit (.float (.finite negative significand exponent standard))
  | text (t : Text) : IsLeaf limit (.text t)

/-- The text of the scalar that a value is written as. -/
def leafText : Data → Text
  | .text t => t
  | d => scalarText false 0 0 d

/-- Whether the scalar that a value is written as has no quotes. -/
def isPlainLeaf : Data → Bool
  | .text t => Style.ofText false t == .plain
  | _ => true

/-- The token that a value is written as. -/
def leafToken (d : Data) : Token := .scalar (leafText d) (isPlainLeaf d)

/-- The node that a value is written as. -/
def leafNode (d : Data) : Node :=
  .scalar (Node.scalarTag none (leafText d) (isPlainLeaf d)) (leafText d)

/-! ## Plain words -/

/-- Whether a text is a word of small letters and underscores. -/
def isName (t : Text) : Bool := !t.isEmpty && t.all fun c => c.isLower || c == '_'

theorem visible_of_isName {t : Text} (name : isName t = true) :
    ∀ d ∈ t, IsInline d ∧ ∀ e : Char, e.toNat < 95 → d ≠ e := by
  intro d member
  have letter := List.all_eq_true.mp (Bool.and_eq_true_iff.mp name).2 d member
  have range : 95 ≤ d.toNat ∧ d.toNat ≤ 122 := by
    rw [Bool.or_eq_true_iff, beq_iff_eq] at letter
    rcases letter with lower | rfl
    · obtain ⟨low, high⟩ := Bool.and_eq_true_iff.mp lower
      have least : 97 ≤ d.toNat := UInt32.le_iff_toNat_le.mp (of_decide_eq_true low)
      have greatest : d.toNat ≤ 122 := UInt32.le_iff_toNat_le.mp (of_decide_eq_true high)
      omega
    · decide
  refine ⟨by constructor <;> omega, ?_⟩
  rintro e small rfl
  omega

theorem isPlainWord_of_visible {word : Text} (nonempty : word ≠ [])
    (visible : ∀ d ∈ word, IsInline d ∧ d ≠ ' ' ∧ d ≠ '#' ∧ d ≠ ':') : IsPlainWord word := by
  refine ⟨nonempty, fun d member => ⟨(visible d member).1, (visible d member).2.1⟩, ?_, ?_⟩
  · intro first
    exact (visible '#' (List.mem_of_head? first)).2.2.1 rfl
  · intro last
    exact (visible ':' (List.mem_of_getLast? last)).2.2.2 rfl

theorem isPlainWord_of_isName {t : Text} (name : isName t = true) : IsPlainWord t := by
  have nonempty : t ≠ [] := by simpa using (Bool.and_eq_true_iff.mp name).1
  refine isPlainWord_of_visible nonempty fun d member => ?_
  obtain ⟨visible, other⟩ := visible_of_isName name d member
  exact ⟨visible, other ' ' (by decide), other '#' (by decide), other ':' (by decide)⟩

theorem startsMarked_of_isDigit {c : Char} {rest : Text} (digit : c.isDigit = true) :
    Style.startsMarked (c :: rest) = false := by
  have marks : (Style.leadingMarks ++ "?:-.".toList).all (fun d => !d.isDigit) = true := by decide
  have other : ∀ d ∈ Style.leadingMarks ++ "?:-.".toList, c ≠ d := by
    intro d member
    apply Text.ne_of_isDigit digit
    simpa using List.all_eq_true.mp marks d member
  have noMark : c ∉ Style.leadingMarks := fun member =>
    other c (List.mem_append_left _ member) rfl
  have question := other '?' (by simp)
  have colon := other ':' (by simp)
  have dash := other '-' (by simp)
  have point := other '.' (by simp)
  simp [Style.startsMarked, List.isPrefixOf, noMark, question, colon, dash, dash.symm, point.symm]

theorem startsMarked_of_negative {c : Char} {rest : Text} (digit : c.isDigit = true) :
    Style.startsMarked ('-' :: c :: rest) = false := by
  have visible := isInline_of_isDigit digit
  have notSpace : c ≠ ' ' := Text.ne_of_isDigit digit rfl
  have notDash : c ≠ '-' := Text.ne_of_isDigit digit rfl
  have notNul : c ≠ Char.ofNat 0 := visible.ne_of_toNat (by decide)
  have solid : Style.isSpacing (some c) = false := by
    simp [Style.isSpacing, visible.isWhite_eq, visible.isBreak_eq_false, notSpace, notNul]
  have noMark : Style.leadingMarks.contains '-' = false := by decide
  rw [Style.startsMarked, noMark, List.head?_cons, solid, Bool.and_false]
  simp [List.isPrefixOf, notDash.symm]

theorem writesScalar_ofNat {least : Nat} (n : Nat) :
    WritesScalar least (Text.ofNat n) (Text.ofNat n) true := by
  have digits : ∀ c ∈ Text.ofNat n, c.isDigit = true := fun _ => Text.isDigit_of_mem_ofNat
  obtain ⟨c, rest, shape⟩ := List.exists_cons_of_ne_nil (Text.ofNat_ne_nil n)
  rw [shape] at digits ⊢
  refine .plain (.word (isPlainWord_of_visible (List.cons_ne_nil c rest) fun d member => ?_))
    (startsMarked_of_isDigit (digits c List.mem_cons_self))
  have digit := digits d member
  exact ⟨isInline_of_isDigit digit, Text.ne_of_isDigit digit rfl, Text.ne_of_isDigit digit rfl,
    Text.ne_of_isDigit digit rfl⟩

theorem Pointed.Proper.writesScalar {least : Nat} {p : Pointed} (proper : p.Proper)
    (negative : Bool) :
    WritesScalar least (Binary64.withSign negative p.text)
      (Binary64.withSign negative p.text) true := by
  have visible : ∀ d ∈ p.text, IsInline d ∧ d ≠ ' ' ∧ d ≠ '#' ∧ d ≠ ':' := by
    intro d member
    rcases proper.mem_text member with digit | rfl | rfl | rfl | rfl
    · exact ⟨isInline_of_isDigit digit, Text.ne_of_isDigit digit rfl, Text.ne_of_isDigit digit rfl,
        Text.ne_of_isDigit digit rfl⟩
    all_goals exact ⟨by decide, by decide, by decide, by decide⟩
  obtain ⟨c, rest, shape, digit⟩ := proper.exists_first
  rw [shape] at visible ⊢
  cases negative with
  | false =>
      exact .plain (.word (isPlainWord_of_visible (List.cons_ne_nil c rest) visible))
        (startsMarked_of_isDigit digit)
  | true =>
      refine .plain (.word (isPlainWord_of_visible (List.cons_ne_nil '-' (c :: rest)) ?_))
        (startsMarked_of_negative digit)
      exact List.forall_mem_cons.mpr
        ⟨⟨by decide, by decide, by decide, by decide⟩, visible⟩

theorem writesScalar_floatText {least significand : Nat} {exponent : Int}
    (standard : Binary64.IsStandard significand exponent) (negative : Bool) :
    WritesScalar least (floatText (.finite negative significand exponent standard))
      (floatText (.finite negative significand exponent standard)) true := by
  obtain ⟨p, proper, text, -⟩ := exists_pointed_of_isStandard standard negative
  rw [text]
  exact proper.writesScalar negative

/-! ## Keys -/

/-- Whether a text is a name that is written without quotes as a key. -/
def isKeyName (t : Text) : Bool :=
  isName t && Style.allowsPlain t && decide (5 + t.length < maxKeyWidth)

theorem ofText_of_isKeyName {name : Text} (key : isKeyName name = true) (isKey : Bool) :
    Style.ofText isKey name = .plain := by
  simp only [isKeyName, Bool.and_eq_true] at key
  rw [Style.ofText, if_pos key.1.2]

/-- A key that is a name is written as itself. -/
theorem writeScalar_of_isKeyName {name : Text} (key : isKeyName name = true) {indent : Nat}
    (indented : 0 < indent) (column : Nat) : writeScalar true indent column name = name := by
  have flows := flows_writeScalar (le_refl indent) indented
    (ofText_of_isKeyName key true) column
  simp only [isKeyName, Bool.and_eq_true] at key
  have noSpace : ' ' ∉ name := fun member =>
    (visible_of_isName key.1.1 ' ' member).2 ' ' (by decide) rfl
  generalize writeScalar true indent column name = written at flows
  cases flows with
  | word _ => rfl
  | spaces _ _ => simp at noSpace
  | line _ _ _ _ => simp at noSpace

theorem isKey_of_isKeyName {name : Text} (key : isKeyName name = true) : IsKey name := by
  have plain := ofText_of_isKeyName key true
  have flows := flows_writeScalar (le_refl 1) Nat.one_pos plain 0
  rw [writeScalar_of_isKeyName key Nat.one_pos] at flows
  simp only [isKeyName, Bool.and_eq_true] at key
  have visible := visible_of_isName key.1.1
  have short : 5 + name.length < maxKeyWidth := of_decide_eq_true key.2
  have word : IsPlainWord name := isPlainWord_of_isName key.1.1
  refine ⟨word, ?_, Lexer.beginsPlain_of_flows flows
    (standsPlain_of_ofText plain).notMarked, ?_⟩
  · exact (Nat.le_add_left _ _).trans (short.le.trans (by decide))
  · obtain ⟨c, rest, rfl⟩ := List.exists_cons_of_ne_nil word.nonempty
    have other := (visible c List.mem_cons_self).2
    rw [List.head?_cons, ne_eq, ne_eq, Option.some_inj, Option.some_inj]
    exact ⟨other '-' (by decide), other '.' (by decide)⟩

/-! ## Texts -/

theorem writesScalar_writeScalar {indent least : Nat} (deep : least ≤ indent)
    (indented : 0 < indent)
    (narrow : indent < lineWidth) (column : Nat) (t : Text) :
    WritesScalar least (writeScalar false indent column t) t (Style.ofText false t == .plain) := by
  by_cases plain : Style.ofText false t = .plain
  · have flows := flows_writeScalar deep indented plain column
    rw [plain]
    exact .plain flows (standsPlain_of_ofText plain).notMarked
  · obtain ⟨double, written, spells, text⟩ := exists_spells_writeScalar indented narrow plain column
    have quoted : (Style.ofText false t == .plain) = false := by simpa using plain
    rw [text, quoted]
    exact .quoted spells

theorem scalarTag_text (t : Text) :
    Node.scalarTag none t (Style.ofText false t == .plain) = .str := by
  by_cases plain : Style.ofText false t = .plain
  · rw [plain]
    exact (standsPlain_of_ofText plain).isString
  · have quoted : (Style.ofText false t == .plain) = false := by simpa using plain
    rw [quoted]
    rfl

section Scalars

variable {limit : Option Nat}

theorem mapError_now {α : Type} (x : Except Error α) : (Staged.now x).mapError Prod.snd = x := by
  cases x <;> rfl

theorem valueOf_scalar {tag : Tag} {text : Text} (single : tag.isCollection = false) :
    valueOf limit (.scalar tag text) = scalarOf limit tag text := by
  rw [valueOf, Node.tag, made, if_neg (by simp [single]), mapError_now]
  rfl

end Scalars

namespace IsLeaf

variable {limit : Option Nat} {d : Data}

theorem valueText_eq (leaf : IsLeaf limit d) (inMap isOpen : Bool) (indent column : Nat) :
    valueText inMap isOpen indent column d =
      ' ' :: scalarText false (indent + 2) (column + 1) d := by
  cases leaf <;> rw [valueText] <;> intros <;> contradiction

theorem writesScalar {indent least : Nat} (leaf : IsLeaf limit d) (deep : least ≤ indent)
    (indented : 0 < indent) (narrow : indent < lineWidth) (column : Nat) :
    WritesScalar least (scalarText false indent column d) (leafText d) (isPlainLeaf d) := by
  cases leaf with
  | null =>
      have word : IsPlainWord "null".toList := isPlainWord_of_isName (by decide)
      exact .plain (.word word) (by decide)
  | bool b =>
      cases b with
      | false =>
          have word : IsPlainWord "false".toList := isPlainWord_of_isName (by decide)
          exact .plain (.word word) (by decide)
      | true =>
          have word : IsPlainWord "true".toList := isPlainWord_of_isName (by decide)
          exact .plain (.word word) (by decide)
  | @int n _ => exact writesScalar_ofNat n
  | float negative standard => exact writesScalar_floatText standard negative
  | text t => exact writesScalar_writeScalar deep indented narrow column t

/-- The node that a value is written as denotes it. -/
theorem valueOf_leafNode (leaf : IsLeaf limit d) : valueOf limit (leafNode d) = .ok d := by
  cases leaf with
  | null => rfl
  | bool b => cases b <;> rfl
  | @int n fits =>
      change valueOf limit (.scalar (Tag.ofPlain (Text.ofNat n)) (Text.ofNat n)) = _
      rw [ofPlain_ofNat, valueOf_scalar rfl]
      exact intOf_ofNat fits
  | @float significand exponent negative standard =>
      change valueOf limit (.scalar
        (Tag.ofPlain (floatText (.finite negative significand exponent standard)))
        (floatText (.finite negative significand exponent standard))) = _
      rw [ofPlain_floatText standard, valueOf_scalar rfl]
      exact floatOf_floatText standard negative
  | text t =>
      change valueOf limit (.scalar (Node.scalarTag none t (Style.ofText false t == .plain)) t) = _
      rw [scalarTag_text]
      rfl

end IsLeaf

end OutlineSearch.Yaml
