import Mathlib.Order.Compare
import OutlineSearch.Proofs.Digits
import OutlineSearch.Proofs.Judgement
import OutlineSearch.Proofs.TextOrder

/-!
# The order of priorities

Letters are compared backwards, numerals by their values, and everything else by code points.
Each of the three rules is an order, but together they are none: a token of another script can
stand, by code points, between two letters or two numerals that their own rule orders the other
way round.  These triples are the only ones that break transitivity.
-/

namespace OutlineSearch.Priority

/-- What a token is made of. -/
inductive Script where
  | letters
  | numeral
  | mixed
deriving Repr, DecidableEq

def script (p : Priority) : Script :=
  if p.token.isLetters then .letters else if p.token.isDigits then .numeral else .mixed

/-- Two priorities that are both letters or both numerals, and so have a rule of their own. -/
structure Kindred (a b : Priority) : Prop where
  same : a.script = b.script
  unmixed : a.script ≠ .mixed

/-- Two priorities neither of which is the higher one. -/
def Alike (a b : Priority) : Prop :=
  a = b ∨ (a.script = .numeral ∧ b.script = .numeral ∧
    a.token.digitsValue = b.token.digitsValue)

/-- A priority of another script that stands between two kindred ones by code points, the first
of which is not the lower one by their own rule. -/
structure Splits (a b between : Priority) : Prop where
  kindred : a.Kindred b
  stranger : a.script ≠ between.script
  above : a.token < between.token
  below : between.token < b.token
  reversed : a.isBelow b = false

/-- Three priorities one of which splits the other two. -/
def Entangled (a b c : Priority) : Prop := Splits a c b ∨ Splits b a c ∨ Splits c b a

variable {a b c : Priority}

theorem Kindred.trans (first : a.Kindred b) (second : b.Kindred c) : a.Kindred c :=
  ⟨first.same.trans second.same, first.unmixed⟩

theorem Kindred.symm (kindred : a.Kindred b) : b.Kindred a :=
  ⟨kindred.same.symm, kindred.same ▸ kindred.unmixed⟩

theorem Splits.not_kindred (splits : Splits a b c) : ¬a.Kindred c :=
  fun kindred => splits.stranger kindred.same

theorem eq_iff_token_eq (a b : Priority) : a = b ↔ a.token = b.token := by
  cases a
  cases b
  simp

/-! ## The three rules -/

theorem compareText_compares (a b : Text) : (compareText a b).Compares a b := by
  unfold compareText
  simp only [Text.lt_iff]
  split
  case isTrue before => exact before
  case isFalse notBefore =>
    split
    case isTrue behind => exact behind
    case isFalse notBehind =>
      exact le_antisymm (not_lt.mp notBehind) (not_lt.mp notBefore)

theorem script_eq_letters_iff (p : Priority) :
    p.script = .letters ↔ p.token.isLetters = true := by
  unfold script
  split
  case isTrue letters => simp [letters]
  case isFalse noLetters => split <;> simp [noLetters]

theorem script_eq_numeral_iff (p : Priority) :
    p.script = .numeral ↔ p.token.isDigits = true := by
  unfold script
  by_cases digits : p.token.isDigits = true
  · simp [Text.isLetters_of_isDigits digits, digits]
  · split <;> simp [digits]

theorem compares_of_letters (left : a.script = .letters) (right : b.script = .letters) :
    (a.compare b).Compares b.token a.token := by
  rw [script_eq_letters_iff] at left right
  simpa [compare, left, right] using compareText_compares b.token a.token

theorem compares_of_numerals (left : a.script = .numeral) (right : b.script = .numeral) :
    (a.compare b).Compares a.token.digitsValue b.token.digitsValue := by
  rw [script_eq_numeral_iff] at left right
  have numbers : a.compare b = Ord.compare a.token.digitsValue b.token.digitsValue := by
    simp [compare, left, right, Text.isLetters_of_isDigits left]
  rw [numbers, ← cmp_eq_compare]
  exact cmp_compares _ _

theorem compares_of_not_kindred (strangers : ¬a.Kindred b) :
    (a.compare b).Compares a.token b.token := by
  have notLetters : ¬(a.token.isLetters = true ∧ b.token.isLetters = true) := by
    rintro ⟨left, right⟩
    rw [← script_eq_letters_iff] at left right
    exact strangers ⟨left.trans right.symm, by simp [left]⟩
  have notNumerals : ¬(a.token.isDigits = true ∧ b.token.isDigits = true) := by
    rintro ⟨left, right⟩
    rw [← script_eq_numeral_iff] at left right
    exact strangers ⟨left.trans right.symm, by simp [left]⟩
  simpa [compare, notLetters, notNumerals] using compareText_compares a.token b.token

/-- Kindred priorities are letters or numerals, strangers are compared as texts. -/
theorem rules (a b : Priority) :
    (a.script = .letters ∧ b.script = .letters) ∨
      (a.script = .numeral ∧ b.script = .numeral) ∨ ¬a.Kindred b := by
  by_cases kindred : a.Kindred b
  · obtain ⟨same, unmixed⟩ := kindred
    cases own : a.script with
    | letters => exact .inl ⟨rfl, by rw [← same, own]⟩
    | numeral => exact .inr (.inl ⟨rfl, by rw [← same, own]⟩)
    | mixed => exact absurd own unmixed
  · exact .inr (.inr kindred)

theorem compare_swap (a b : Priority) : (a.compare b).swap = b.compare a := by
  rcases rules a b with ⟨left, right⟩ | ⟨left, right⟩ | strangers
  · exact (Ordering.compares_swap.mpr (compares_of_letters left right)).inj
      (compares_of_letters right left)
  · exact (Ordering.compares_swap.mpr (compares_of_numerals left right)).inj
      (compares_of_numerals right left)
  · have reversed : ¬b.Kindred a := fun kindred => strangers kindred.symm
    exact (Ordering.compares_swap.mpr (compares_of_not_kindred strangers)).inj
      (compares_of_not_kindred reversed)

theorem compare_eq_eq_iff (a b : Priority) : a.compare b = .eq ↔ a.Alike b := by
  unfold Alike
  rw [eq_iff_token_eq]
  rcases rules a b with ⟨left, right⟩ | ⟨left, right⟩ | strangers
  · rw [(compares_of_letters left right).eq_eq]
    simp [left, eq_comm]
  · have sameValue : a.token = b.token → a.token.digitsValue = b.token.digitsValue :=
      fun same => by rw [same]
    rw [(compares_of_numerals left right).eq_eq]
    simpa [left, right] using sameValue
  · have notNumerals : ¬(a.script = .numeral ∧ b.script = .numeral) := by
      rintro ⟨left, right⟩
      exact strangers ⟨left.trans right.symm, by simp [left]⟩
    rw [(compares_of_not_kindred strangers).eq_eq]
    tauto

theorem isBelow_iff_of_not_kindred (strangers : ¬a.Kindred b) :
    a.isBelow b = true ↔ a.token < b.token := by
  rw [isBelow, beq_iff_eq, (compares_of_not_kindred strangers).eq_lt]

/-- The rule of letters and the rule of numerals are transitive. -/
theorem Kindred.isBelow_trans (first : a.Kindred b) (second : b.Kindred c)
    (lower : a.isBelow b = true) (higher : b.isBelow c = true) : a.isBelow c = true := by
  have same := second.same
  rw [isBelow, beq_iff_eq] at lower higher ⊢
  rcases rules a b with ⟨left, middle⟩ | ⟨left, middle⟩ | strangers
  · have right := same.symm.trans middle
    rw [(compares_of_letters left middle).eq_lt] at lower
    rw [(compares_of_letters middle right).eq_lt] at higher
    rw [(compares_of_letters left right).eq_lt]
    exact higher.trans lower
  · have right := same.symm.trans middle
    rw [(compares_of_numerals left middle).eq_lt] at lower
    rw [(compares_of_numerals middle right).eq_lt] at higher
    rw [(compares_of_numerals left right).eq_lt]
    exact lower.trans higher
  · exact absurd first strangers

/-! ## Comparisons of two -/

theorem isAbove_eq_isBelow (a b : Priority) : a.isAbove b = b.isBelow a := by
  rw [isAbove, isBelow, ← compare_swap a b]
  cases a.compare b <;> rfl

theorem isBelow_self (a : Priority) : a.isBelow a = false := by
  have alike : a.compare a = .eq := (compare_eq_eq_iff a a).mpr (.inl rfl)
  rw [isBelow, alike]
  rfl

theorem isBelow_asymm (lower : a.isBelow b = true) : b.isBelow a = false := by
  rw [isBelow, beq_iff_eq] at lower
  rw [isBelow, ← compare_swap a b, lower]
  rfl

/-- Of two priorities one is the lower one, or they are alike. -/
theorem below_or_alike_or_above (a b : Priority) :
    (a.isBelow b = true ∧ ¬a.Alike b ∧ a.isAbove b = false) ∨
      (a.isBelow b = false ∧ a.Alike b ∧ a.isAbove b = false) ∨
      (a.isBelow b = false ∧ ¬a.Alike b ∧ a.isAbove b = true) := by
  rw [← compare_eq_eq_iff, isBelow, isAbove]
  cases a.compare b <;> simp

theorem isAtMost_iff (a b : Priority) :
    a.isAtMost b = true ↔ a.isBelow b = true ∨ a.Alike b := by
  rw [← compare_eq_eq_iff, isBelow, isAtMost]
  cases a.compare b <;> simp

theorem isAtLeast_iff (a b : Priority) :
    a.isAtLeast b = true ↔ a.isAbove b = true ∨ a.Alike b := by
  rw [← compare_eq_eq_iff, isAbove, isAtLeast]
  cases a.compare b <;> simp

/-! ## Comparisons of three -/

theorem Splits.isBelow_left (splits : Splits a b c) : a.isBelow c = true :=
  (isBelow_iff_of_not_kindred splits.not_kindred).mpr splits.above

theorem Splits.isBelow_right (splits : Splits a b c) : c.isBelow b = true := by
  have strangers : ¬c.Kindred b :=
    fun kindred => splits.not_kindred (splits.kindred.trans kindred.symm)
  exact (isBelow_iff_of_not_kindred strangers).mpr splits.below

/-- Entangled priorities run in a circle. -/
theorem Entangled.isBelow_eq_false (entangled : Entangled a b c) : a.isBelow c = false := by
  rcases entangled with outer | left | right
  · exact outer.reversed
  · exact isBelow_asymm left.isBelow_right
  · exact isBelow_asymm right.isBelow_left

/-- Within one script the order is transitive. -/
theorem not_entangled_of_script (left : a.script = b.script) (right : b.script = c.script) :
    ¬Entangled a b c := by
  rintro (outer | last | first)
  · exact outer.stranger left
  · exact last.stranger right
  · exact first.stranger (left.trans right).symm

theorem Kindred.script_ne (kindred : a.Kindred b) (strangers : ¬a.Kindred c) :
    a.script ≠ c.script :=
  fun same => strangers ⟨same, kindred.unmixed⟩

theorem Kindred.token_ne (kindred : a.Kindred b) (strangers : ¬a.Kindred c) :
    a.token ≠ c.token := by
  intro same
  have equal : a = c := (eq_iff_token_eq a c).mpr same
  exact kindred.script_ne strangers (by rw [equal])

theorem isBelow_of_untangled (lower : a.isBelow b = true) (higher : b.isBelow c = true)
    (untangled : ¬Entangled a b c) : a.isBelow c = true := by
  by_contra notBelow
  apply untangled
  by_cases left : a.Kindred b
  · by_cases right : b.Kindred c
    · exact absurd (left.isBelow_trans right lower higher) notBelow
    · -- the highest is a stranger
      have outer : ¬a.Kindred c := fun kindred => right (left.symm.trans kindred)
      rw [isBelow_iff_of_not_kindred outer, not_lt] at notBelow
      refine .inr (.inl ⟨left.symm, left.symm.script_ne right, ?_, ?_, isBelow_asymm lower⟩)
      · exact (isBelow_iff_of_not_kindred right).mp higher
      · exact lt_of_le_of_ne notBelow (left.token_ne outer).symm
  · rw [isBelow_iff_of_not_kindred left] at lower
    by_cases right : b.Kindred c
    · -- the lowest is a stranger
      have reversed : ¬c.Kindred a := fun kindred => left (right.trans kindred).symm
      have outer : ¬a.Kindred c := fun kindred => reversed kindred.symm
      rw [isBelow_iff_of_not_kindred outer, not_lt] at notBelow
      refine .inr (.inr ⟨right.symm, right.symm.script_ne reversed, ?_, lower,
        isBelow_asymm higher⟩)
      exact lt_of_le_of_ne notBelow (right.symm.token_ne reversed)
    · rw [isBelow_iff_of_not_kindred right] at higher
      by_cases outer : a.Kindred c
      · -- the one in the middle is a stranger
        refine .inl ⟨outer, outer.script_ne left, lower, higher, ?_⟩
        exact Bool.eq_false_iff.mpr notBelow
      · rw [isBelow_iff_of_not_kindred outer] at notBelow
        exact absurd (lower.trans higher) notBelow

/-- Entangled triples, and only they, break transitivity. -/
theorem isBelow_trans_iff (lower : a.isBelow b = true) (higher : b.isBelow c = true) :
    a.isBelow c = true ↔ ¬Entangled a b c := by
  constructor
  · intro below entangled
    rw [entangled.isBelow_eq_false] at below
    cases below
  · intro untangled
    exact isBelow_of_untangled lower higher untangled

end OutlineSearch.Priority

namespace OutlineSearch.Criteria

/-! ## Bounds -/

variable (c : Criteria) (chain : List Heading) (innermost : Heading)

theorem accepts_above_iff (bound : Priority) :
    { c with above := some bound }.accepts chain innermost = true ↔
      { c with above := none }.accepts chain innermost = true ∧
        ∃ p, innermost.priority = some p ∧ bound.isBelow p = true := by
  rw [accepts_iff, accepts_iff]
  have higher : ∀ p : Priority, bound.isBelow p = true ↔ p.compare bound = .gt := by
    intro p
    rw [← Priority.isAbove_eq_isBelow, Priority.isAbove, beq_iff_eq]
  simp only [higher]
  constructor
  · intro held
    refine ⟨{ held with above := ?_ }, held.above bound rfl⟩
    intro other isOther
    cases isOther
  · rintro ⟨held, isHigher⟩
    refine { held with above := ?_ }
    rintro other isOther
    cases isOther
    exact isHigher

theorem accepts_below_iff (bound : Priority) :
    { c with below := some bound }.accepts chain innermost = true ↔
      { c with below := none }.accepts chain innermost = true ∧
        ∃ p, innermost.priority = some p ∧ p.isBelow bound = true := by
  rw [accepts_iff, accepts_iff]
  simp only [Priority.isBelow, beq_iff_eq]
  constructor
  · intro held
    refine ⟨{ held with below := ?_ }, held.below bound rfl⟩
    intro other isOther
    cases isOther
  · rintro ⟨held, isLower⟩
    refine { held with below := ?_ }
    rintro other isOther
    cases isOther
    exact isLower

/-- A lower bound from above selects what a higher one does, up to entangled priorities. -/
theorem accepts_above_of_isBelow {a b : Priority} (lower : a.isBelow b = true)
    (accepted : { c with above := some b }.accepts chain innermost = true) :
    ∃ p, innermost.priority = some p ∧
      ({ c with above := some a }.accepts chain innermost = true ↔ ¬a.Entangled b p) := by
  rw [accepts_above_iff] at accepted ⊢
  obtain ⟨others, p, isPriority, higher⟩ := accepted
  refine ⟨p, isPriority, ?_⟩
  rw [← Priority.isBelow_trans_iff lower higher]
  simp [others, isPriority]

theorem accepts_below_of_isBelow {b d : Priority} (higher : b.isBelow d = true)
    (accepted : { c with below := some b }.accepts chain innermost = true) :
    ∃ p, innermost.priority = some p ∧
      ({ c with below := some d }.accepts chain innermost = true ↔ ¬p.Entangled b d) := by
  rw [accepts_below_iff] at accepted ⊢
  obtain ⟨others, p, isPriority, lower⟩ := accepted
  refine ⟨p, isPriority, ?_⟩
  rw [← Priority.isBelow_trans_iff lower higher]
  simp [others, isPriority]

end OutlineSearch.Criteria

namespace OutlineSearch.Priority

/-- Comparisons of priorities, and the bounds that they make.  One of two priorities is below the
other unless they are alike; what is below another is below everything above that, and a bound
selects whatever a narrower bound does, unless the three priorities are entangled. -/
theorem order_unless_entangled (a b c : Priority) (criteria : Criteria) (chain : List Heading)
    (innermost : Heading) :
    a.isBelow a = false ∧
    ((a.isBelow b = true ∧ ¬a.Alike b ∧ a.isAbove b = false) ∨
      (a.isBelow b = false ∧ a.Alike b ∧ a.isAbove b = false) ∨
      (a.isBelow b = false ∧ ¬a.Alike b ∧ a.isAbove b = true)) ∧
    a.isAbove b = b.isBelow a ∧
    (a.isAtMost b = true ↔ a.isBelow b = true ∨ a.Alike b) ∧
    (a.isAtLeast b = true ↔ a.isAbove b = true ∨ a.Alike b) ∧
    (a.isBelow b = true → b.isBelow c = true → (a.isBelow c = true ↔ ¬Entangled a b c)) ∧
    (a.isBelow b = true →
      { criteria with above := some b }.accepts chain innermost = true →
      ∃ p, innermost.priority = some p ∧
        ({ criteria with above := some a }.accepts chain innermost = true ↔
          ¬Entangled a b p)) ∧
    (b.isBelow c = true →
      { criteria with below := some b }.accepts chain innermost = true →
      ∃ p, innermost.priority = some p ∧
        ({ criteria with below := some c }.accepts chain innermost = true ↔
          ¬Entangled p b c)) := by
  refine ⟨isBelow_self a, below_or_alike_or_above a b, isAbove_eq_isBelow a b, isAtMost_iff a b,
    isAtLeast_iff a b, isBelow_trans_iff, ?_, ?_⟩
  · exact criteria.accepts_above_of_isBelow chain innermost
  · exact criteria.accepts_below_of_isBelow chain innermost

/-- Letters are not entangled with each other, while 5a stands between 10 and 9. -/
theorem order_of_letters_and_numerals :
    (Priority.mk ['C']).isBelow ⟨['A']⟩ = true ∧
    { above := some ⟨['C']⟩ : Criteria }.accepts []
      ⟨1, 1, ['x'], [], [], none, some ⟨['A']⟩, none⟩ = true ∧
    (Priority.mk ['9']).isBelow ⟨['5', 'a']⟩ = false := by
  have letters : ¬Entangled ⟨['C']⟩ ⟨['B']⟩ ⟨['A']⟩ :=
    not_entangled_of_script (by decide) (by decide)
  have numerals : Entangled ⟨['9']⟩ ⟨['1', '0']⟩ ⟨['5', 'a']⟩ := by
    right
    left
    constructor
    · constructor <;> decide
    all_goals decide
  obtain ⟨-, -, -, -, -, transitive, bound, -⟩ := order_unless_entangled ⟨['C']⟩ ⟨['B']⟩ ⟨['A']⟩
    {} [] ⟨1, 1, ['x'], [], [], none, some ⟨['A']⟩, none⟩
  obtain ⟨-, -, -, -, -, broken, -, -⟩ := order_unless_entangled ⟨['9']⟩ ⟨['1', '0']⟩
    ⟨['5', 'a']⟩ {} [] ⟨1, 1, ['x'], [], [], none, none, none⟩
  refine ⟨?_, ?_, ?_⟩
  · exact (transitive (by decide) (by decide)).mpr letters
  · obtain ⟨p, isPriority, selected⟩ := bound (by decide) (by decide)
    cases isPriority
    exact selected.mpr letters
  · rw [Bool.eq_false_iff, Ne, broken (by decide) (by decide), not_not]
    exact numerals

/-- A1 is above A, and B is above A1 but not above A. -/
theorem order_of_letters_around_mixed :
    (Priority.mk ['A']).isBelow ⟨['A', '1']⟩ = true ∧
    (Priority.mk ['A', '1']).isBelow ⟨['B']⟩ = true ∧
    (Priority.mk ['A']).isBelow ⟨['B']⟩ = false ∧
    { above := some ⟨['A', '1']⟩ : Criteria }.accepts []
      ⟨1, 1, ['x'], [], [], none, some ⟨['B']⟩, none⟩ = true ∧
    { above := some ⟨['A']⟩ : Criteria }.accepts []
      ⟨1, 1, ['x'], [], [], none, some ⟨['B']⟩, none⟩ = false := by
  decide

end OutlineSearch.Priority
