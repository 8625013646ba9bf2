import OutlineSearch.Proofs.Yaml.Gap

/-!
# Tokens of a block document

The reader of tokens is followed from one token to the next.  Between tokens it waits outside
of brackets: its state is then a place, the columns of the blocks around it and the tokens so
far.  Each lemma says which tokens stand for a piece of text in front of the rest: a key with
its colon, a scalar behind it or behind a dash, an empty list, the end of blocks.
-/

namespace OutlineSearch.Yaml

namespace Lexer

/-- A reader outside of brackets, with no colon to wait for. -/
def waiting (keyAllowed : Bool) (s : Source) (indent : Int) (outer : List Int)
    (tokens : List Token) : Lexer :=
  ⟨s, tokens, indent, outer, 0, keyAllowed, []⟩

/-- With enough steps a reader comes to its end with these tokens. -/
def Yields (x : Lexer) (tokens : List Token) : Prop :=
  ∀ limit, x.source.rest.length < limit → x.run limit = .ok tokens

theorem run_succ_eq_ok_iff (limit : Nat) (x : Lexer) (tokens : List Token) :
    x.run (limit + 1) = .ok tokens ↔
      x.step = .ok (.inr tokens) ∨ ∃ y, x.step = .ok (.inl y) ∧ y.run limit = .ok tokens := by
  rw [run]
  rcases x.step with e | y | all <;> simp

section Steps

variable {x y : Lexer} {tokens : List Token}

theorem endBlocks_self {column : Int} (deep : x.indent ≤ column) : x.endBlocks column = x := by
  rw [endBlocks]
  split
  · rfl
  · cases x.outer with
    | nil => rfl
    | cons around outer =>
        rw [endBlocks.go, if_neg (by omega)]

theorem step_of_settle (settled : x.settle = .ok y) :
    x.step = (y.endBlocks y.source.column).take := by
  rw [step, settled]
  rfl

theorem yields_of_step_eq (same : x.step = y.step)
    (fewer : y.source.rest.length ≤ x.source.rest.length) (yields : Yields y tokens) :
    Yields x tokens := by
  intro limit enough
  obtain ⟨limit, rfl⟩ := Nat.exists_eq_succ_of_ne_zero (Nat.ne_zero_of_lt enough)
  have rest := yields (limit + 1) (by omega)
  rw [run_succ_eq_ok_iff] at rest
  rw [Nat.succ_eq_add_one, run_succ_eq_ok_iff, same]
  exact rest

theorem yields_of_settle (settled : x.settle = .ok y) (again : y.settle = .ok y)
    (fewer : y.source.rest.length ≤ x.source.rest.length) (yields : Yields y tokens) :
    Yields x tokens :=
  yields_of_step_eq (by rw [step, step, settled, again]) fewer yields

theorem yields_of_token {c : Char} (settled : x.settle = .ok x)
    (deep : x.indent ≤ (x.source.column : Int)) (first : x.source.peek = some c)
    (read : x.token c = .ok y) (fewer : y.source.rest.length < x.source.rest.length)
    (yields : Yields y tokens) : Yields x tokens := by
  intro limit enough
  obtain ⟨limit, rfl⟩ := Nat.exists_eq_succ_of_ne_zero (Nat.ne_zero_of_lt enough)
  have step : x.step = .ok (.inl y) := by
    rw [step_of_settle settled, endBlocks_self deep, take, first]
    dsimp only
    rw [read]
    rfl
  rw [Nat.succ_eq_add_one, run_succ_eq_ok_iff]
  exact .inr ⟨y, step, yields limit (by omega)⟩

theorem toNextToken_self (starts : StartsToken x.source.rest) (limit : Nat) :
    x.toNextToken (limit + 1) = x := by
  have split : x.source.rest = List.replicate 0 ' ' ++ x.source.rest := rfl
  obtain ⟨noComment, noBreak⟩ := Source.dropComment_of_startsToken (s := x.source) rfl starts
  rw [toNextToken, Source.dropSpaces_append split starts.notSpace, Source.skip]
  dsimp only
  rw [noComment, noBreak, if_neg Bool.false_ne_true]

theorem dropStale_of_fresh (fresh : ∀ k ∈ x.keys, x.isStale k.2 = false) :
    x.dropStale = .ok x := by
  have none : (x.keys.any fun k => x.isStale k.2 && k.2.required) = false := by
    rw [List.any_eq_false]
    intro k member
    rw [fresh k member, Bool.false_and]
    exact Bool.false_ne_true
  have all : x.keys.filter (fun k => !x.isStale k.2) = x.keys := by
    rw [List.filter_eq_self]
    intro k member
    rw [fresh k member]
    rfl
  change (if (x.keys.any fun k => x.isStale k.2 && k.2.required) = true then _ else
    Except.ok { x with keys := x.keys.filter fun k => !x.isStale k.2 }) = _
  rw [none, if_neg Bool.false_ne_true, all]

theorem dropStale_of_stale (stale : ∀ k ∈ x.keys, x.isStale k.2 = true ∧ k.2.required = false) :
    x.dropStale = .ok { x with keys := [] } := by
  have none : (x.keys.any fun k => x.isStale k.2 && k.2.required) = false := by
    rw [List.any_eq_false]
    intro k member
    rw [(stale k member).2, Bool.and_false]
    exact Bool.false_ne_true
  have all : x.keys.filter (fun k => !x.isStale k.2) = [] := by
    rw [List.filter_eq_nil_iff]
    intro k member
    rw [(stale k member).1]
    exact Bool.false_ne_true
  change (if (x.keys.any fun k => x.isStale k.2 && k.2.required) = true then _ else
    Except.ok { x with keys := x.keys.filter fun k => !x.isStale k.2 }) = _
  rw [none, if_neg Bool.false_ne_true, all]

theorem settle_self (starts : StartsToken x.source.rest)
    (fresh : ∀ k ∈ x.keys, x.isStale k.2 = false) : x.settle = .ok x := by
  rw [settle, toNextToken_self starts, dropStale_of_fresh fresh]

/-- Behind lines that are passed no key waits for its colon. -/
theorem settle_passes {behind : Source} {crossed : Bool}
    (passes : x.source.Passes behind crossed) (depth : x.depth = 0)
    (stale : ∀ k ∈ x.keys, k.2.line < behind.line ∧ k.2.required = false) :
    x.settle = .ok (waiting (x.keyAllowed || crossed) behind x.indent x.outer x.tokens) := by
  rw [settle, passes x rfl depth _ (Nat.lt_succ_self _), dropStale_of_stale]
  · rw [waiting, ← depth]
  · intro k member
    obtain ⟨earlier, notRequired⟩ := stale k member
    refine ⟨?_, notRequired⟩
    rw [isStale, Bool.or_eq_true, bne_iff_ne]
    exact .inl (Nat.ne_of_lt earlier)

end Steps

section Waiting

variable {keyAllowed : Bool} {s : Source} {indent around : Int} {outer : List Int}
  {before tokens : List Token}

theorem settle_waiting (starts : StartsToken s.rest) :
    (waiting keyAllowed s indent outer before).settle =
      .ok (waiting keyAllowed s indent outer before) :=
  settle_self starts (by simp [waiting])

/-- A block ends where a line is indented less. -/
theorem yields_blockEnd (starts : StartsToken s.rest) (shallow : (s.column : Int) < indent)
    (yields : Yields (waiting keyAllowed s around outer (.blockEnd :: before)) tokens) :
    Yields (waiting keyAllowed s indent (around :: outer) before) tokens := by
  have ends : (waiting keyAllowed s indent (around :: outer) before).endBlocks s.column =
      (waiting keyAllowed s around outer (.blockEnd :: before)).endBlocks s.column := by
    change endBlocks.go s.column (around :: outer) _ = endBlocks.go s.column outer _
    rw [endBlocks.go]
    exact if_pos shallow
  have same : (waiting keyAllowed s indent (around :: outer) before).step =
      (waiting keyAllowed s around outer (.blockEnd :: before)).step := by
    rw [step_of_settle (settle_waiting starts), step_of_settle (settle_waiting starts)]
    exact congrArg take ends
  exact yields_of_step_eq same (Nat.le_refl _) yields

/-- All blocks end at the end of the text. -/
theorem yields_end (empty : s.rest = []) :
    Yields (waiting keyAllowed s 0 [-1] before) (.blockEnd :: before).reverse := by
  intro limit enough
  obtain ⟨limit, rfl⟩ := Nat.exists_eq_succ_of_ne_zero (Nat.ne_zero_of_lt enough)
  have starts : StartsToken s.rest := by simp [empty, StartsToken]
  have deep : (waiting keyAllowed s 0 [-1] before).endBlocks s.column =
      waiting keyAllowed s 0 [-1] before := endBlocks_self (by simp [waiting])
  have none : (waiting keyAllowed s 0 [-1] before).source.peek = none := by
    rw [waiting, Source.peek, empty]
    rfl
  have step : (waiting keyAllowed s 0 [-1] before).step =
      .ok (.inr (Token.blockEnd :: before).reverse) := by
    rw [step_of_settle (settle_waiting starts)]
    change ((waiting keyAllowed s 0 [-1] before).endBlocks s.column).take = _
    rw [deep, take, none]
    rfl
  rw [Nat.succ_eq_add_one, run_succ_eq_ok_iff]
  exact .inl step

/-! ## Scalars -/

/-- What is noted about a token that may be a key. -/
def possibleKey (s : Source) (indent : Int) (before : List Token) : PossibleKey :=
  ⟨before.length, indent == (s.column : Int), s.index, s.line, s.column⟩

theorem noteKey_waiting : (waiting keyAllowed s indent outer before).noteKey =
    .ok { waiting keyAllowed s indent outer before with
      keys := if keyAllowed then [(0, possibleKey s indent before)] else [] } := by
  cases keyAllowed <;> rfl

/-- What a plain scalar may begin with. -/
structure BeginsPlain (c : Char) (rest : Text) : Prop where
  unmarked : Style.leadingMarks.contains c = false
  sign : "?:-".toList.contains c = true → endsWord rest.head? = false
  notWhite : endsWord (some c) = false

namespace BeginsPlain

variable {c : Char} {rest : Text}

theorem ne_mark (begins : BeginsPlain c rest) {d : Char}
    (mark : Style.leadingMarks.contains d = true) : (c == d) = false := by
  rw [beq_eq_false_iff_ne]
  rintro rfl
  rw [begins.unmarked] at mark
  cases mark

/-- A sign stands in front of a word, so that nothing but a scalar begins with it. -/
theorem ne_sign (begins : BeginsPlain c rest) {d : Char} (isSign : "?:-".toList.contains d = true) :
    (c == d && endsWord rest.head?) = false := by
  cases same : c == d with
  | false => rfl
  | true =>
      obtain rfl := beq_iff_eq.mp same
      rw [begins.sign isSign]
      rfl

theorem beginsPlain (begins : BeginsPlain c rest) {x : Lexer} (depth : x.depth = 0)
    (next : x.source.next.peek = rest.head?) : x.beginsPlain c = true := by
  unfold Lexer.beginsPlain
  rw [next, begins.notWhite, depth]
  by_cases signed : "?:-".toList.contains c = true
  · have marks : c = '?' ∨ c = ':' ∨ c = '-' := by
      simpa [List.contains_eq_mem] using signed
    rw [begins.sign signed]
    rcases marks with rfl | rfl | rfl <;> rfl
  · have noMark : "-?:,[]\x7b\x7d#&*!|>'\"%@\x60".toList.contains c = false := by
      have covered : ("-?:,[]\x7b\x7d#&*!|>'\"%@\x60".toList.all fun d =>
          Style.leadingMarks.contains d || "?:-".toList.contains d) = true := by decide
      rw [List.contains_eq_mem, decide_eq_false_iff_not]
      intro member
      have mark := List.all_eq_true.mp covered c member
      rw [begins.unmarked, Bool.false_or] at mark
      exact signed mark
    rw [noMark]
    rfl

end BeginsPlain

theorem token_plain {c : Char} {rest : Text} {x : Lexer} (split : x.source.rest = c :: rest)
    (depth : x.depth = 0) (begins : BeginsPlain c rest)
    (separate : x.source.column ≠ 0 ∨ x.source.isSeparator = false) :
    x.token c = x.plainScalar := by
  have next : x.source.next.peek = rest.head? := by
    rw [Source.peek, Source.rest_next_cons split]
  have noSeparator : (x.source.column == 0 && x.source.isSeparator) = false := by
    rcases separate with inside | no
    · simp [inside]
    · simp [no]
  have dash : (c == '-' && endsWord rest.head?) = false := begins.ne_sign rfl
  have question : (c == '?' && (x.depth != 0 || endsWord rest.head?)) = false := by
    rw [depth]
    exact begins.ne_sign rfl
  have colon : (c == ':' && (x.depth != 0 || endsWord rest.head?)) = false := by
    rw [depth]
    exact begins.ne_sign rfl
  have other {d : Char} := begins.ne_mark (d := d)
  unfold token
  simp only [next, dash, question, colon, noSeparator, begins.beginsPlain depth next,
    other (d := '%') rfl, other (d := '[') rfl, other (d := '\x7b') rfl, other (d := ']') rfl,
    other (d := '\x7d') rfl, other (d := ',') rfl, other (d := '*') rfl, other (d := '&') rfl,
    other (d := '!') rfl, other (d := '|') rfl, other (d := '>') rfl, other (d := '\'') rfl,
    other (d := '"') rfl, Bool.false_and, if_neg Bool.false_ne_true, if_true]

theorem token_quoted {double : Bool} {rest : Text} {x : Lexer}
    (split : x.source.rest = quoteOf double :: rest) :
    x.token (quoteOf double) = x.keyLike (takeQuotedToken double) := by
  have noSeparator : x.source.isSeparator = false := by
    apply Source.isSeparator_eq_false <;> rw [split] <;> cases double <;> simp [quoteOf]
  cases double <;> simp [token, quoteOf, noSeparator]

theorem beginsPlain_of_flows {least : Nat} {written text : Text} (flows : Flows least written text)
    (notMarked : Style.startsMarked text = false) (r : Text) :
    ∃ c rest, written ++ r = c :: rest ∧ BeginsPlain c rest := by
  obtain ⟨word, more, moreText, isWord, rfl, rfl, ending⟩ := flows.exists_word
  obtain ⟨c, word, rfl⟩ := List.exists_cons_of_ne_nil isWord.nonempty
  have visible := isWord.visible
  rw [List.forall_mem_cons] at visible
  rw [List.cons_append, Style.startsMarked, Bool.or_eq_false_iff, Bool.or_eq_false_iff,
    Bool.or_eq_false_iff] at notMarked
  obtain ⟨⟨⟨leading, sign⟩, -⟩, -⟩ := notMarked
  refine ⟨c, word ++ more ++ r, rfl, leading, ?_, ?_⟩
  · intro isSign
    rw [isSign, Bool.true_and] at sign
    cases word with
    | nil =>
        rcases ending with ⟨-, rfl⟩ | ⟨-, space⟩
        · cases sign
        · rw [List.nil_append, space] at sign
          cases sign
    | cons d word =>
        obtain ⟨isInline, notSpace⟩ := visible.2 d List.mem_cons_self
        rw [List.cons_append, List.cons_append, List.head?_cons, isInline.endsWord_eq,
          beq_eq_false_iff_ne]
        exact notSpace
  · rw [visible.1.1.endsWord_eq, beq_eq_false_iff_ne]
    exact visible.1.2

end Waiting

/-- How a scalar is written; the last part tells whether it has no quotes. -/
inductive WritesScalar (least : Nat) : Text → Text → Bool → Prop where
  | quoted {double : Bool} {written text : Text} : Spells double written text →
      WritesScalar least (quoteOf double :: (written ++ [quoteOf double])) text false
  | plain {written text : Text} : Flows least written text → Style.startsMarked text = false →
      WritesScalar least written text true

section Scalars

variable {keyAllowed plain : Bool} {s behind : Source} {indent : Int} {outer : List Int}
  {before tokens : List Token} {written text r : Text}

theorem WritesScalar.startsToken {least : Nat} (scalar : WritesScalar least written text plain)
    (r : Text) : StartsToken (written ++ r) := by
  cases scalar with
  | @quoted double written text spells =>
      cases double <;> exact startsToken_cons (by decide) (by decide) (by decide)
  | plain flows _ =>
      obtain ⟨c, rest, shape, visible, notComment⟩ := flows.exists_first r
      rw [shape]
      exact startsToken_cons visible.1 visible.2 notComment

/-- A reader behind a token that began at `s` and may be a key. -/
def behindToken (keyAllowed : Bool) (s : Source) (allowed : Bool) (after : Source) (indent : Int)
    (outer : List Int) (before : List Token) (t : Token) : Lexer :=
  ⟨after, t :: before, indent, outer, 0, allowed,
    if keyAllowed then [(0, possibleKey s indent before)] else []⟩

theorem plainScalar_waiting {broken : Bool} {after : Source}
    (taken : s.takePlain false (indent + 1).toNat = (text, broken, after)) :
    (waiting keyAllowed s indent outer before).plainScalar =
      .ok (behindToken keyAllowed s broken after indent outer before (.scalar text true)) := by
  rw [plainScalar, noteKey_waiting]
  have outside : ((waiting keyAllowed s indent outer before).depth != 0) = false := rfl
  have same : (waiting keyAllowed s indent outer before).source.takePlain
      ((waiting keyAllowed s indent outer before).depth != 0) (indent + 1).toNat =
        (text, broken, after) := by rw [outside]; exact taken
  dsimp only [bind, Except.bind, waiting] at same ⊢
  rw [same]
  rfl

theorem keyLike_waiting {double : Bool} {after : Source}
    (taken : s.takeQuoted double = .ok (text, after)) :
    (waiting keyAllowed s indent outer before).keyLike (takeQuotedToken double) =
      .ok (behindToken keyAllowed s false after indent outer before (.scalar text false)) := by
  have token : takeQuotedToken double s = .ok (.scalar text false, after) := by
    rw [takeQuotedToken, taken]
    rfl
  rw [keyLike, noteKey_waiting]
  change (takeQuotedToken double s >>= _) = _
  rw [token]
  rfl

/-- A token that is indented more than its block is no key any more on a later line. -/
theorem settle_behindToken {after : Source} {crossed allowed : Bool} {t : Token}
    (passes : after.Passes behind crossed) (ready : (allowed || crossed) = true)
    (deep : indent < (s.column : Int)) (later : s.line < behind.line) :
    (behindToken keyAllowed s allowed after indent outer before t).settle =
      .ok (waiting true behind indent outer (t :: before)) := by
  have stale : ∀ k ∈ (behindToken keyAllowed s allowed after indent outer before t).keys,
      k.2.line < behind.line ∧ k.2.required = false := by
    intro k member
    cases keyAllowed with
    | false => cases member
    | true =>
        obtain rfl := List.mem_singleton.mp member
        refine ⟨later, ?_⟩
        simp only [possibleKey, beq_eq_false_iff_ne]
        omega
  have settled := settle_passes (x := behindToken keyAllowed s allowed after indent outer before t)
    passes rfl stale
  rw [settled, ← ready]
  rfl

/-- A token behind a colon or a dash, and the lines behind it. -/
theorem yields_of_behindToken {c : Char} {after : Source} {allowed crossed : Bool} {t : Token}
    (starts : StartsToken s.rest) (first : s.peek = some c) (deep : indent < (s.column : Int))
    (step : (waiting keyAllowed s indent outer before).token c =
      .ok (behindToken keyAllowed s allowed after indent outer before t))
    (fewer : after.rest.length < s.rest.length) (passes : after.Passes behind crossed)
    (ready : (allowed || crossed) = true) (later : s.line < behind.line)
    (fewerBehind : behind.rest.length ≤ after.rest.length) (startsBehind : StartsToken behind.rest)
    (yields : Yields (waiting true behind indent outer (t :: before)) tokens) :
    Yields (waiting keyAllowed s indent outer before) tokens :=
  yields_of_token (settle_waiting starts) deep.le first step fewer
    (yields_of_settle (settle_behindToken passes ready deep later) (settle_waiting startsBehind)
      fewerBehind yields)

section Ends

variable (split : s.rest = written ++ r) (deep : indent < (s.column : Int))
  (ends : Source.EndsScalar (indent + 1).toNat (s.skip written.length) behind)

include split ends in
theorem head?_behind_scalar : r.head? = some '\n' := by
  rw [← Source.rest_skip_append split]
  exact ends.feed

include ends in
theorem line_lt_behind_scalar : s.line < behind.line :=
  Nat.lt_of_le_of_lt (Source.line_le_skip s _) ends.later

include split deep ends

theorem yields_plain (flows : Flows (indent + 1).toNat written text)
    (notMarked : Style.startsMarked text = false) (starts : StartsToken s.rest)
    (inside : 0 ≤ indent)
    (yields : Yields (waiting true behind indent outer (.scalar text true :: before)) tokens) :
    Yields (waiting keyAllowed s indent outer before) tokens := by
  obtain ⟨after, crossed, endsPlain, passes, fewerPlain⟩ := ends.plain
  obtain ⟨c, rest, first, begins⟩ := beginsPlain_of_flows flows notMarked r
  have shape : s.rest = c :: rest := split.trans first
  have wordEnds : Source.takePlainWord false r = [] := by
    apply Source.takePlainWord_of_endsWord
    rw [head?_behind_scalar split ends]
    rfl
  have taken : s.takePlain false (indent + 1).toNat = (text, true, after) :=
    Source.readsPlain_of_flows flows wordEnds _ _ split (by omega) endsPlain
      (Nat.lt_succ_self _)
  have step : (waiting keyAllowed s indent outer before).token c =
      .ok (behindToken keyAllowed s true after indent outer before (.scalar text true)) := by
    rw [token_plain shape rfl begins (.inl (by change s.column ≠ 0; omega)),
      plainScalar_waiting taken]
  have fewer : after.rest.length < s.rest.length := by
    have length := List.length_pos_iff.mpr flows.written_ne_nil
    have shorter := fewerPlain.1
    rw [Source.rest_skip_append split] at shorter
    rw [split, List.length_append]
    omega
  exact yields_of_behindToken starts (Source.peek_append_cons shape) deep step fewer
    passes rfl (line_lt_behind_scalar ends) fewerPlain.2 ends.starts yields

end Ends

theorem yields_quoted {double : Bool} (spells : Spells double written text)
    (split : s.rest = quoteOf double :: (written ++ [quoteOf double]) ++ r)
    (deep : indent < (s.column : Int))
    (ends : Source.EndsScalar (indent + 1).toNat
      (s.skip (quoteOf double :: (written ++ [quoteOf double])).length) behind)
    (starts : StartsToken s.rest)
    (yields : Yields (waiting true behind indent outer (.scalar text false :: before)) tokens) :
    Yields (waiting keyAllowed s indent outer before) tokens := by
  have shape : s.rest = quoteOf double :: (written ++ quoteOf double :: r) := by
    rw [split]
    simp
  have single : double = false → r.head? ≠ some '\'' := by
    intro _ quote
    rw [head?_behind_scalar split ends] at quote
    cases quote
  have taken := Source.takeQuoted_of_spells spells shape single
  have step : (waiting keyAllowed s indent outer before).token (quoteOf double) =
      .ok (behindToken keyAllowed s false (s.skip (written.length + 2)) indent outer before
        (.scalar text false)) := by
    rw [token_quoted shape, keyLike_waiting taken]
  have length : (quoteOf double :: (written ++ [quoteOf double])).length =
      written.length + 2 := by
    simp
  rw [← length] at step
  have fewer :
      (s.skip (quoteOf double :: (written ++ [quoteOf double])).length).rest.length <
        s.rest.length := by
    rw [Source.rest_skip_append split, split, List.length_append]
    simp
  exact yields_of_behindToken starts (Source.peek_append_cons shape) deep step fewer
    ends.passes rfl (line_lt_behind_scalar ends) ends.fewer.le ends.starts yields

/-- A scalar behind a colon or a dash. -/
theorem yields_scalar (scalar : WritesScalar (indent + 1).toNat written text plain)
    (split : s.rest = written ++ r) (inside : 0 ≤ indent) (deep : indent < (s.column : Int))
    (ends : Source.EndsScalar (indent + 1).toNat (s.skip written.length) behind)
    (yields : Yields (waiting true behind indent outer (.scalar text plain :: before)) tokens) :
    Yields (waiting keyAllowed s indent outer before) tokens := by
  have starts := scalar.startsToken r
  rw [← split] at starts
  cases scalar with
  | quoted spells => exact yields_quoted spells split deep ends starts yields
  | plain flows notMarked => exact yields_plain split deep ends flows notMarked starts inside yields

end Scalars

/-! ## Structure -/

section Structure

variable {keyAllowed : Bool} {s behind : Source} {indent : Int} {outer : List Int}
  {before tokens : List Token} {r : Text}

/-- What stands in front of a token is passed. -/
theorem yields_passes {crossed : Bool} (passes : s.Passes behind crossed)
    (starts : StartsToken behind.rest) (fewer : behind.rest.length ≤ s.rest.length)
    (yields : Yields (waiting (keyAllowed || crossed) behind indent outer before) tokens) :
    Yields (waiting keyAllowed s indent outer before) tokens :=
  yields_of_settle (settle_passes passes rfl (by simp [waiting]))
    (settle_waiting starts) fewer yields

theorem yields_space (split : s.rest = ' ' :: r) (starts : StartsToken r)
    (yields : Yields (waiting keyAllowed s.next indent outer before) tokens) :
    Yields (waiting keyAllowed s indent outer before) tokens := by
  have spaces : s.rest = List.replicate 1 ' ' ++ r := split
  have place : s.next.rest = r := Source.rest_next_cons split
  refine yields_passes (Source.passes_spaces spaces starts) ?_ ?_ ?_
  · change StartsToken s.next.rest
    rw [place]
    exact starts
  · change s.next.rest.length ≤ s.rest.length
    rw [place, split]
    exact Nat.le_succ _
  · rw [Bool.or_false]
    exact yields

/-- The dash of an item in a list that is not indented more than its key. -/
theorem yields_entry (split : s.rest = '-' :: ' ' :: r) (column : indent = (s.column : Int))
    (yields : Yields (waiting true s.next indent outer (.entry :: before)) tokens) :
    Yields (waiting true s indent outer before) tokens := by
  have starts : StartsToken s.rest := by
    rw [split]
    exact startsToken_cons (by decide) (by decide) (by decide)
  have noSeparator : s.isSeparator = false := by
    rw [Source.isSeparator, split]
    rfl
  have behindDash : s.next.rest = ' ' :: r := Source.rest_next_cons split
  have sameBlock : (waiting true s indent outer before).beginBlock .blockSequenceStart s.column 0 =
      waiting true s indent outer before := by
    rw [beginBlock]
    exact if_neg (by change ¬indent < (s.column : Int); omega)
  have step : (waiting true s indent outer before).token '-' =
      .ok (waiting true s.next indent outer (.entry :: before)) := by
    have wordEnds : endsWord (waiting true s indent outer before).source.next.peek = true := by
      change endsWord s.next.peek = true
      rw [Source.peek_append_cons behindDash]
      rfl
    have isEntry : (waiting true s indent outer before).token '-' =
        (waiting true s indent outer before).entry := by
      have noSeparatorHere : (waiting true s indent outer before).source.isSeparator = false :=
        noSeparator
      simp [token, wordEnds, noSeparatorHere]
    rw [isEntry]
    change (do
      let x ←
        ((waiting true s indent outer before).beginBlock .blockSequenceStart s.column 0).dropKey
      Except.ok ({ x with keyAllowed := true }.passAs .entry 1)) = _
    rw [sameBlock]
    rfl
  have fewer : s.next.rest.length < s.rest.length := by
    rw [behindDash, split]
    exact Nat.lt_succ_self _
  exact yields_of_token (settle_waiting starts) (by change indent ≤ (s.column : Int); omega)
    (Source.peek_append_cons split) step fewer yields

/-- A reader between the brackets of a list that has just been opened. -/
def insideBrackets (s : Source) (indent : Int) (outer : List Int) (tokens : List Token) : Lexer :=
  ⟨s, tokens, indent, outer, 1, true, []⟩

theorem token_openBracket (split : s.rest = '[' :: r) :
    (waiting false s indent outer before).token '[' =
      .ok (insideBrackets s.next indent outer (.flowSequenceStart :: before)) := by
  have noSeparator : (waiting false s indent outer before).source.isSeparator = false := by
    apply Source.isSeparator_eq_false <;> (change s.rest.head? ≠ _; rw [split]; simp)
  have isOpen : (waiting false s indent outer before).token '[' =
      (waiting false s indent outer before).openBracket .flowSequenceStart := by
    simp [token, noSeparator]
  rw [isOpen]
  rfl

theorem token_closeBracket (split : s.rest = ']' :: r) :
    (insideBrackets s indent outer before).token ']' =
      .ok (waiting false s.next indent outer (.flowSequenceEnd :: before)) := by
  have noSeparator : (insideBrackets s indent outer before).source.isSeparator = false := by
    apply Source.isSeparator_eq_false <;> (change s.rest.head? ≠ _; rw [split]; simp)
  have isClose : (insideBrackets s indent outer before).token ']' =
      (insideBrackets s indent outer before).closeBracket .flowSequenceEnd := by
    simp [token, noSeparator]
  rw [isClose]
  rfl

/-- An empty list. -/
theorem yields_emptyList {least : Nat} (split : s.rest = '[' :: ']' :: r)
    (deep : indent < (s.column : Int)) (ends : Source.EndsScalar least (s.skip 2) behind)
    (yields : Yields (waiting true behind indent outer
      (.flowSequenceEnd :: .flowSequenceStart :: before)) tokens) :
    Yields (waiting false s indent outer before) tokens := by
  have startsOpen : StartsToken s.rest := by
    rw [split]
    exact startsToken_cons (by decide) (by decide) (by decide)
  have behindOpen : s.next.rest = ']' :: r := Source.rest_next_cons split
  have startsClose : StartsToken s.next.rest := by
    rw [behindOpen]
    exact startsToken_cons (by decide) (by decide) (by decide)
  have place := Source.next_of_isInline split (by decide)
  have fewerOpen : s.next.rest.length < s.rest.length := by
    rw [behindOpen, split]
    exact Nat.lt_succ_self _
  have fewerClose : (s.skip 2).rest.length < s.next.rest.length := by
    rw [Source.rest_skip, split, behindOpen]
    exact Nat.lt_succ_self _
  refine yields_of_token (settle_waiting startsOpen) (le_of_lt deep) (Source.peek_append_cons split)
    (token_openBracket split) fewerOpen ?_
  refine yields_of_token (settle_self startsClose (by simp [insideBrackets])) ?_
    (Source.peek_append_cons behindOpen) (token_closeBracket behindOpen) fewerClose ?_
  · change indent ≤ (s.next.column : Int)
    rw [place]
    dsimp only
    omega
  · exact yields_passes ends.passes ends.starts ends.fewer.le yields

/-! ### Keys -/

/-- A key that is written as itself. -/
structure IsKey (name : Text) : Prop where
  word : IsPlainWord name
  short : name.length ≤ 1024
  begins : ∀ rest, ∃ c more, name ++ rest = c :: more ∧ BeginsPlain c more
  noSeparator : name.head? ≠ some '-' ∧ name.head? ≠ some '.'

theorem takePlain_key {least : Nat} {name : Text} (isKey : IsKey name)
    (split : s.rest = name ++ ':' :: r)
    (wordEnds : endsWord r.head? = true) :
    s.takePlain false least = (name, false, s.skip name.length) := by
  have place : (s.skip name.length).rest = ':' :: r := Source.rest_skip_append split
  have colonEnds : Source.takePlainWord false (':' :: r) = [] := by
    rw [Source.takePlainWord, wordEnds]
    rfl
  have noSpace : (s.skip name.length).takePlainSpace = (⟨[], false⟩, s.skip name.length) := by
    rw [Source.takePlainSpace, Source.takeWhile_append (t := []) place (by simp) (by simp)]
    dsimp only
    rw [List.length_nil, Source.skip, Source.peek_append_cons place]
    rfl
  rw [Source.takePlain, Source.takePlainFrom_word isKey.word split colonEnds noSpace]
  rfl

/-- The blocks around a mapping whose keys stand at a column.  A mapping that is indented more
than the block around it has a block of its own, which begins with the first key. -/
def blocksAround (column : Nat) (indent : Int) (outer : List Int) : List Int :=
  if indent < (column : Int) then indent :: outer else outer

/-- The tokens in front of a key at a column. -/
def tokensBefore (column : Nat) (indent : Int) (before : List Token) : List Token :=
  if indent < (column : Int) then .blockMappingStart :: before else before

@[simp] theorem blocksAround_self (column : Nat) (outer : List Int) :
    blocksAround column column outer = outer := if_neg (Int.lt_irrefl _)

@[simp] theorem tokensBefore_self (column : Nat) (before : List Token) :
    tokensBefore column column before = before := if_neg (Int.lt_irrefl _)

/-- Behind a token of one line that is short enough a colon makes it a key. -/
theorem token_colon {name : Text} (place : (s.skip name.length).rest = ':' :: r)
    (wordEnds : endsWord r.head? = true) (deep : indent ≤ (s.column : Int)) :
    (behindToken true s false (s.skip name.length) indent outer before
        (.scalar name true)).token ':' =
      .ok (waiting false (s.skip (name.length + 1)) s.column (blocksAround s.column indent outer)
        (.value :: .scalar name true :: .key :: tokensBefore s.column indent before)) := by
  let x := behindToken true s false (s.skip name.length) indent outer before (.scalar name true)
  have isValue : x.token ':' = x.value := by
    have next : endsWord x.source.next.peek = true := by
      change endsWord (s.skip name.length).next.peek = true
      rw [Source.peek, Source.rest_next_cons place]
      exact wordEnds
    have noSeparator : x.source.isSeparator = false := by
      apply Source.isSeparator_eq_false <;>
        (change (s.skip name.length).rest.head? ≠ _; rw [place]; simp)
    simp [token, next, noSeparator]
  have back : (Token.scalar name true :: before).length - before.length = 1 := by
    rw [List.length_cons]
    omega
  have lookup : x.keys.lookup x.depth = some (possibleKey s indent before) := rfl
  let y : Lexer := ⟨s.skip name.length, .scalar name true :: .key :: before, indent, outer, 0,
    false, []⟩
  have value : x.value = .ok ({ y.beginBlock .blockMappingStart s.column 2 with
      keyAllowed := false }.passAs .value 1) := by
    rw [Lexer.value, lookup]
    change Except.ok ({ beginBlock .blockMappingStart s.column
        ((Token.scalar name true :: before).length - before.length + 1)
        ⟨s.skip name.length, (Token.scalar name true :: before).take
          ((Token.scalar name true :: before).length - before.length) ++ Token.key ::
          (Token.scalar name true :: before).drop
          ((Token.scalar name true :: before).length - before.length), indent, outer, 0, false, []⟩
        with keyAllowed := false }.passAs .value 1) = _
    rw [back]
    rfl
  change x.token ':' = _
  rw [isValue, value, beginBlock, Source.skip_add, blocksAround, tokensBefore]
  by_cases opens : indent < (s.column : Int)
  · rw [if_pos opens, if_pos opens, if_pos opens]
    rfl
  · rw [if_neg opens, if_neg opens, if_neg opens, ← Int.le_antisymm deep (Int.not_lt.mp opens)]
    rfl

/-- A token of one line that is short enough may still be a key. -/
theorem settle_behindToken_short {after : Source} {allowed : Bool} {t : Token}
    (starts : StartsToken after.rest) (sameLine : after.line = s.line)
    (short : after.index ≤ s.index + 1024) :
    (behindToken true s allowed after indent outer before t).settle =
      .ok (behindToken true s allowed after indent outer before t) := by
  refine settle_self starts ?_
  intro k member
  obtain rfl := List.mem_singleton.mp member
  rw [isStale]
  change (s.line != after.line || decide (s.index + 1024 < after.index)) = false
  rw [sameLine, decide_eq_false (Nat.not_lt.mpr short)]
  simp

/-- A key with its colon. -/
theorem yields_key {name : Text} (isKey : IsKey name) (split : s.rest = name ++ ':' :: r)
    (wordEnds : endsWord r.head? = true) (deep : indent ≤ (s.column : Int))
    (yields : Yields (waiting false (s.skip (name.length + 1)) s.column
      (blocksAround s.column indent outer)
      (.value :: .scalar name true :: .key :: tokensBefore s.column indent before)) tokens) :
    Yields (waiting true s indent outer before) tokens := by
  obtain ⟨c, more, shape, begins⟩ := isKey.begins (':' :: r)
  have first : s.rest = c :: more := by rw [split, shape]
  have place : (s.skip name.length).rest = ':' :: r := Source.rest_skip_append split
  have reached := Source.skip_of_isInline split fun d member => (isKey.word.visible d member).1
  have starts : StartsToken s.rest := by
    rw [split]
    exact isKey.word.startsToken (':' :: r)
  have startsColon : StartsToken (s.skip name.length).rest := by
    rw [place]
    exact startsToken_cons (by decide) (by decide) (by decide)
  have noSeparator : s.isSeparator = false := by
    obtain ⟨e, rest, rfl⟩ := List.exists_cons_of_ne_nil isKey.word.nonempty
    apply Source.isSeparator_eq_false <;> rw [split]
    · exact isKey.noSeparator.1
    · exact isKey.noSeparator.2
  have step : (waiting true s indent outer before).token c =
      .ok (behindToken true s false (s.skip name.length) indent outer before
        (.scalar name true)) := by
    rw [token_plain first rfl begins (.inr noSeparator),
      plainScalar_waiting (takePlain_key isKey split wordEnds)]
  have fewer : (s.skip name.length).rest.length < s.rest.length := by
    have someName := List.length_pos_iff.mpr isKey.word.nonempty
    rw [place, split, List.length_append]
    omega
  have fewerColon : (s.skip (name.length + 1)).rest.length < (s.skip name.length).rest.length := by
    rw [Source.skip_add, Source.rest_skip, place]
    exact Nat.lt_succ_self _
  have short : (s.skip name.length).index ≤ s.index + 1024 := by
    rw [reached]
    exact Nat.add_le_add_left isKey.short _
  have deepColon : indent ≤ ((s.skip name.length).column : Int) := by
    rw [reached]
    dsimp only
    omega
  refine yields_of_token (settle_waiting starts) deep (Source.peek_append_cons first) step fewer ?_
  exact yields_of_token (settle_behindToken_short startsColon (by rw [reached]) short) deepColon
    (Source.peek_append_cons place) (token_colon place wordEnds deep) fewerColon yields

end Structure

end Lexer

end OutlineSearch.Yaml
