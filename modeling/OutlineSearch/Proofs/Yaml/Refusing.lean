import OutlineSearch.Proofs.Outcomes
import OutlineSearch.Yaml.Value

/-!
# How a text is refused

Reading a text has three stages, and each of them refuses a text that is malformed.  Any other
error comes from the value of something: of an escape or of a number in a directive while
tokens are read, or of a scalar when nodes become values.  Putting tokens together to nodes
adds no other errors.
-/

namespace OutlineSearch.Yaml

/-- An outcome whose error, if there is one, is as stated. -/
def Raises {ε α : Type} (P : ε → Prop) (x : Except ε α) : Prop := ∀ e, x = .error e → P e

section Raises

variable {ε α β : Type} {P : ε → Prop}

theorem Raises.ok (a : α) : Raises P (.ok a) := by
  intro e same
  cases same

theorem raises_error_iff (e : ε) : Raises P (.error e : Except ε α) ↔ P e := by
  constructor
  · intro raises
    exact raises e rfl
  · intro holds e same
    cases same
    exact holds

theorem Raises.bind {x : Except ε α} {f : α → Except ε β} (first : Raises P x)
    (next : ∀ a, x = .ok a → Raises P (f a)) : Raises P (x >>= f) := by
  intro e same
  cases x with
  | error e =>
      cases same
      exact first e rfl
  | ok a => exact next a rfl e same

theorem Raises.map {x : Except ε α} {f : α → β} (raises : Raises P x) : Raises P (f <$> x) :=
  raises.bind fun a _ => .ok (f a)

theorem Raises.mapError {δ : Type} {Q : δ → Prop} {x : Except ε α} {f : ε → δ}
    (raises : Raises P x) (same : ∀ e, P e → Q (f e)) : Raises Q (x.mapError f) := by
  intro d failed
  cases x with
  | error e =>
      cases failed
      exact same e (raises e rfl)
  | ok a => cases failed

theorem Raises.ite {c : Prop} [Decidable c] {x y : Except ε α} (left : Raises P x)
    (right : Raises P y) : Raises P (if c then x else y) := by
  split
  · exact left
  · exact right

theorem Raises.mono {Q : ε → Prop} {x : Except ε α} (raises : Raises P x)
    (weaker : ∀ e, P e → Q e) : Raises Q x :=
  fun e same => weaker e (raises e same)

end Raises

/-- The errors of texts that do not follow the grammar. -/
inductive Error.Malformed : Error → Prop where
  | intro (reason : String) (line : Option Nat) : Malformed (.malformed reason line)

/-- The errors of texts that do not follow the grammar or ask for a character or a version that
does not exist. -/
inductive Error.OfToken : Error → Prop where
  | malformed (reason : String) (line : Option Nat) : OfToken (.malformed reason line)
  | code : OfToken .codeTooLarge
  | char : OfToken (.badValue "chr() arg not in range(0x110000)")
  | digits {count : Nat} : Text.maxDigits < count → OfToken (.badValue (Text.tooManyDigits count))

/-! ## Tokens -/

/-- A part of a reader of tokens. -/
abbrev Scans {α : Type} (x : Except Error α) : Prop := Raises Error.OfToken x

namespace Source

theorem scans_refuse {α : Type} (s : Source) (reason : String) :
    Scans (s.refuse reason : Except Error α) :=
  (raises_error_iff _).mpr (.malformed _ _)

theorem scans_endLine (s : Source) : Scans s.endLine := .ite (.ok _) (scans_refuse _ _)

theorem scans_charOfCode (code : Nat) : Scans (charOfCode code) :=
  .ite ((raises_error_iff _).mpr .code) (.ite ((raises_error_iff _).mpr .char) (.ok _))

theorem scans_takeQuotedBreaks (limit : Nat) (s : Source) : Scans (takeQuotedBreaks limit s) := by
  induction limit generalizing s with
  | zero => exact .ok _
  | succ limit induction =>
      refine .ite (scans_refuse _ _) ?_
      dsimp only
      split
      · exact .ite ((induction _).bind fun _ _ => .ok _) (.ok _)
      · exact .ok _

theorem scans_takeEscape (limit : Nat) (s : Source) : Scans (takeEscape limit s) := by
  unfold takeEscape
  split
  · exact scans_refuse _ _
  · split
    · exact .ok _
    · exact .ite ((scans_charOfCode _).bind fun _ _ => .ok _) (scans_refuse _ _)
    · exact .ite (scans_takeQuotedBreaks _ _) (scans_refuse _ _)

theorem scans_takeQuotedWord (double : Bool) (limit : Nat) (s : Source) :
    Scans (takeQuotedWord double limit s) := by
  induction limit generalizing s with
  | zero => exact .ok _
  | succ limit induction =>
      have more : ∀ (s : Source) (f : Text × Source → Text × Source),
          Scans (do let read ← takeQuotedWord double limit s; .ok (f read)) :=
        fun s _ => (induction s).bind fun _ _ => .ok _
      rw [takeQuotedWord]
      split
      · exact .ok _
      · refine .ite (more _ _) (.ite (more _ _) (.ite (more _ _) (.ite ?_ (.ok _))))
        exact (scans_takeEscape _ _).bind fun _ _ => more _ _

theorem scans_takeQuotedSpace (limit : Nat) (s : Source) : Scans (takeQuotedSpace limit s) := by
  unfold takeQuotedSpace
  dsimp only
  split
  · exact scans_refuse _ _
  · exact .ite ((scans_takeQuotedBreaks _ _).bind fun _ _ => .ok _) (.ok _)

theorem scans_takeQuotedRest (double : Bool) (limit : Nat) (s : Source) :
    Scans (takeQuotedRest double limit s) := by
  induction limit generalizing s with
  | zero => exact scans_refuse _ _
  | succ limit induction =>
      refine (scans_takeQuotedWord _ _ _).bind fun _ _ => .ite (.ok _) ?_
      exact (scans_takeQuotedSpace _ _).bind fun _ _ => (induction _).bind fun _ _ => .ok _

theorem scans_takeIncrement (s : Source) : Scans (takeIncrement s) := by
  unfold takeIncrement
  split
  · exact .ite (scans_refuse _ _) (.ite (.ok _) (.ok _))
  · exact .ok _

theorem scans_takeIndicators (s : Source) : Scans (takeIndicators s) := by
  refine (scans_takeIncrement _).bind fun _ _ => ?_
  dsimp only
  split <;> exact .ite (.ok _) (scans_refuse _ _)

theorem scans_takeBlock (fold : Bool) (outer : Int) (s : Source) :
    Scans (takeBlock fold outer s) :=
  (scans_takeIndicators _).bind fun _ _ => (scans_endLine _).bind fun _ _ => .ok _

theorem scans_takeAnchor (s : Source) : Scans (takeAnchor s) :=
  .ite (scans_refuse _ _) (.ite (.ok _) (scans_refuse _ _))

theorem scans_takeAddress (limit : Nat) (s : Source) : Scans (takeAddress limit s) := by
  induction limit generalizing s with
  | zero => exact .ok _
  | succ limit induction =>
      refine .ite (.ite (scans_refuse _ _) ?_) (.ite (.ok _) ?_)
      · split
        · exact scans_refuse _ _
        · exact (induction _).bind fun _ _ => .ok _
      · exact (induction _).bind fun _ _ => .ok _

theorem scans_takeSomeAddress (s : Source) : Scans (takeSomeAddress s) :=
  (scans_takeAddress _ _).bind fun _ _ => .ite (scans_refuse _ _) (.ok _)

theorem scans_takeHandle (s : Source) : Scans (takeHandle s) :=
  .ite (scans_refuse _ _) (.ite (.ok _) (.ite (.ok _) (scans_refuse _ _)))

theorem scans_takeTag (s : Source) : Scans (takeTag s) := by
  have last : ∀ (token : Token) (s : Source), Scans (if endsItem s.peek then
      .ok (token, s) else s.refuse "expected a space behind a tag") :=
    fun _ _ => .ite (.ok _) (scans_refuse _ _)
  refine .ite ?_ (.ite (last _ _) (.ite ?_ ?_))
  · refine (scans_takeSomeAddress _).bind fun _ _ => .ite (last _ _) ?_
    exact (scans_refuse _ _).bind fun _ _ => last _ _
  · refine (scans_takeHandle _).bind fun _ _ => ?_
    exact (scans_takeSomeAddress _).bind fun _ _ => last _ _
  · exact (scans_takeSomeAddress _).bind fun _ _ => last _ _

theorem scans_takeNumber (s : Source) : Scans (takeNumber s) := by
  unfold takeNumber
  dsimp only
  split
  · exact scans_refuse _ _
  · split
    case isTrue long => exact (raises_error_iff _).mpr (.digits long)
    case isFalse => exact .ok _

theorem scans_takeVersion (s : Source) : Scans (takeVersion s) := by
  refine (scans_takeNumber _).bind fun _ _ => .ite (scans_refuse _ _) ?_
  exact (scans_takeNumber _).bind fun _ _ => .ite (.ok _) (scans_refuse _ _)

theorem scans_takeHandleDirective (s : Source) : Scans (takeHandleDirective s) := by
  refine (scans_takeHandle _).bind fun _ _ => .ite (scans_refuse _ _) ?_
  exact (scans_takeSomeAddress _).bind fun _ _ => .ite (.ok _) (scans_refuse _ _)

theorem scans_takeDirective (s : Source) : Scans (takeDirective s) := by
  have last : ∀ (directive : Directive) (s : Source),
      Scans (do let after ← s.endLine; .ok (directive, after)) :=
    fun _ _ => (scans_endLine _).bind fun _ _ => .ok _
  refine .ite (scans_refuse _ _) (.ite (scans_refuse _ _) (.ite ?_ (.ite ?_ ?_)))
  · exact (scans_takeVersion _).bind fun _ _ => last _ _
  · exact (scans_takeHandleDirective _).bind fun _ _ => last _ _
  · exact last _ _

end Source

namespace Lexer

theorem scans_refuse (x : Lexer) (reason : String) : Scans (x.refuse reason : Except Error Lexer) :=
  Source.scans_refuse _ _

theorem scans_dropStale (x : Lexer) : Scans x.dropStale := .ite (scans_refuse _ _) (.ok _)

theorem scans_dropKey (x : Lexer) : Scans x.dropKey := by
  unfold dropKey
  split
  · exact .ok _
  · exact .ite (scans_refuse _ _) (.ok _)

theorem scans_noteKey (x : Lexer) : Scans x.noteKey :=
  .ite (.ok _) ((scans_dropKey _).bind fun _ _ => .ok _)

theorem scans_atMargin (x : Lexer) : Scans x.atMargin := (scans_dropKey _).bind fun _ _ => .ok _

theorem scans_openBracket (t : Token) (x : Lexer) : Scans (x.openBracket t) :=
  (scans_noteKey _).bind fun _ _ => .ok _

theorem scans_closeBracket (t : Token) (x : Lexer) : Scans (x.closeBracket t) :=
  (scans_dropKey _).bind fun _ _ => .ite (scans_refuse _ _) (.ok _)

theorem scans_comma (x : Lexer) : Scans x.comma := (scans_dropKey _).bind fun _ _ => .ok _

theorem scans_entry (x : Lexer) : Scans x.entry :=
  .ite (scans_refuse _ _) ((scans_dropKey _).bind fun _ _ => .ok _)

theorem scans_explicitKey (x : Lexer) : Scans x.explicitKey :=
  .ite (scans_refuse _ _) ((scans_dropKey _).bind fun _ _ => .ok _)

theorem scans_value (x : Lexer) : Scans x.value := by
  unfold value
  split
  · exact .ok _
  · exact .ite (scans_refuse _ _) ((scans_dropKey _).bind fun _ _ => .ok _)

theorem scans_keyLike {take : Source → Except Error (Token × Source)} (x : Lexer)
    (taken : ∀ s, Scans (take s)) : Scans (x.keyLike take) :=
  (scans_noteKey _).bind fun _ _ => (taken _).bind fun _ _ => .ok _

theorem scans_blockScalar (fold : Bool) (x : Lexer) : Scans (x.blockScalar fold) :=
  (scans_dropKey _).bind fun _ _ => (Source.scans_takeBlock _ _ _).bind fun _ _ => .ok _

theorem scans_plainScalar (x : Lexer) : Scans x.plainScalar :=
  (scans_noteKey _).bind fun _ _ => .ok _

theorem scans_takeQuotedToken (double : Bool) (s : Source) : Scans (takeQuotedToken double s) :=
  (Source.scans_takeQuotedRest _ _ _).bind fun _ _ => .ok _

theorem scans_takeName (f : Text → Token) (s : Source) :
    Scans ((fun read => (f read.1, read.2)) <$> s.takeAnchor) :=
  (Source.scans_takeAnchor _).map

theorem scans_directive (x : Lexer) : Scans (x.atMargin >>= fun x =>
    x.source.takeDirective >>= fun read =>
      .ok ({ x with source := read.2 }.push (.directive read.1))) :=
  (scans_atMargin _).bind fun _ _ => (Source.scans_takeDirective _).bind fun _ _ => .ok _

theorem scans_token (c : Char) (x : Lexer) : Scans (x.token c) := by
  rw [token]
  exact .ite (scans_directive _) <| .ite ((scans_atMargin _).bind fun _ _ => .ok _) <|
    .ite (scans_openBracket _ _) <| .ite (scans_openBracket _ _) <|
    .ite (scans_closeBracket _ _) <| .ite (scans_closeBracket _ _) <|
    .ite (scans_comma _) <| .ite (scans_entry _) <| .ite (scans_explicitKey _) <|
    .ite (scans_value _) <| .ite (scans_keyLike _ (scans_takeName .alias)) <|
    .ite (scans_keyLike _ (scans_takeName .anchor)) <|
    .ite (scans_keyLike _ Source.scans_takeTag) <|
    .ite (scans_blockScalar _ _) <| .ite (scans_blockScalar _ _) <|
    .ite (scans_keyLike _ (scans_takeQuotedToken _)) <|
    .ite (scans_keyLike _ (scans_takeQuotedToken _)) <| .ite (scans_plainScalar _) <|
    scans_refuse _ _

theorem scans_take (x : Lexer) : Scans x.take := by
  unfold take
  split
  · exact (scans_dropKey _).map
  · exact (scans_token _ _).map

theorem scans_step (x : Lexer) : Scans x.step :=
  (scans_dropStale _).bind fun _ _ => scans_take _

theorem stops_run (limit : Nat) (x : Lexer) :
    Raises (fun stop => stop.error.OfToken) (x.run limit) := by
  induction limit generalizing x with
  | zero => exact Raises.mapError (Source.scans_refuse x.source _) fun _ isOfToken => isOfToken
  | succ limit induction =>
      rw [run]
      split
      case h_1 e failed => exact (raises_error_iff _).mpr (scans_step x e failed)
      case h_2 => exact .ok _
      case h_3 => exact induction _

end Lexer

/-- Tokens are read, or the text is malformed or asks for a character or a version that does
not exist. -/
theorem stops_tokensOf (text : Text) : Raises (fun stop => stop.error.OfToken) (tokensOf text) := by
  unfold tokensOf
  split
  · exact (raises_error_iff _).mpr (.malformed _ _)
  · exact Lexer.stops_run _ _

/-! ## Nodes -/

/-- A part of a reader of nodes, where `ending` is what is wrong behind the tokens. -/
abbrev Composes {α : Type} (ending : Option Error) (x : Except Error α) : Prop :=
  Raises (fun e => e.Malformed ∨ ending = some e) x

namespace Node

variable {ending : Option Error}

theorem composes_refuse {α : Type} (reason : String) :
    Composes ending (refuse reason : Except Error α) :=
  (raises_error_iff _).mpr (.inl (.intro _ _))

theorem composes_demand (tokens : List Token) : Composes ending (demand ending tokens) := by
  unfold demand
  split
  · exact .ok _
  · split
    · exact (raises_error_iff _).mpr (.inr rfl)
    · exact .ok _

theorem composes_refuseAt {α : Type} (tokens : List Token) (reason : String) :
    Composes ending (refuseAt ending tokens reason : Except Error α) :=
  (composes_demand _).bind fun _ _ => composes_refuse _

namespace Composer

theorem composes_fullTag (c : Composer) (tag : Option (Option Text × Text)) :
    Composes ending (c.fullTag tag) := by
  unfold fullTag
  split
  · exact .ok _
  · exact .ok _
  · split
    · exact .ok _
    · exact composes_refuse _

theorem composes_takeLateAnchor (c : Composer) : Composes ending (c.takeLateAnchor ending) :=
  (composes_demand _).bind fun _ _ => .ok _

theorem composes_takeProperties (c : Composer) : Composes ending (c.takeProperties ending) := by
  unfold takeProperties
  dsimp only
  split
  · refine (composes_takeLateAnchor _).bind fun _ _ => ?_
    exact (composes_fullTag _ _).bind fun _ _ => .ok _
  · exact (composes_fullTag _ _).bind fun _ _ => .ok _

theorem composes_begin_ (p : Properties) (c : Composer) : Composes ending (c.begin_ p) := by
  unfold begin_
  split
  · exact .ok _
  · exact .ite (composes_refuse _) (.ok _)

theorem composes_resolve (name : Text) (c : Composer) : Composes ending (c.resolve name) := by
  unfold resolve
  split
  · exact .ok _
  · exact composes_refuse _

end Composer

open Composer

/-- What all readers of nodes have in common if they make no more than `limit` calls. -/
structure ComposesWithin (ending : Option Error) (limit : Nat) : Prop where
  read : ∀ place c, Composes ending (read ending place limit c)
  readUnless : ∀ stops place c, Composes ending (readUnless ending stops place limit c)
  readItems : ∀ c, Composes ending (readItems ending limit c)
  readLooseItems : ∀ c, Composes ending (readLooseItems ending limit c)
  readEntries : ∀ c, Composes ending (readEntries ending limit c)
  readFlowItems : ∀ first c, Composes ending (readFlowItems ending first limit c)
  readFlowEntries : ∀ first c, Composes ending (readFlowEntries ending first limit c)

variable {limit : Nat}

theorem ComposesWithin.read_succ (within : ComposesWithin ending limit) (place : Place)
    (c : Composer) :
    Composes ending (Node.read ending place (limit + 1) c) := by
  rw [Node.read]
  split
  · exact (composes_resolve _ _).bind fun _ _ => .ok _
  · refine (composes_takeProperties _).bind fun _ _ => (composes_demand _).bind fun _ _ =>
      (composes_begin_ _ _).bind fun _ _ => ?_
    split
    · exact .ok _
    · exact (within.readFlowItems _ _).bind fun _ _ => .ok _
    · exact (within.readFlowEntries _ _).bind fun _ _ => .ok _
    · exact .ite ((within.readLooseItems _).bind fun _ _ => .ok _) <|
        .ite ((within.readItems _).bind fun _ _ => .ok _) <|
        .ite ((within.readEntries _).bind fun _ _ => .ok _) <|
        .ite (.ok _) (composes_refuse _)
    · exact .ite (.ok _) (composes_refuse _)

theorem ComposesWithin.readItems_succ (within : ComposesWithin ending limit) (c : Composer) :
    Composes ending (Node.readItems ending (limit + 1) c) := by
  rw [Node.readItems]
  split
  · refine (within.readUnless _ _ _).bind fun _ _ => ?_
    exact (within.readItems _).bind fun _ _ => .ok _
  · exact .ok _
  · exact composes_refuseAt _ _

theorem ComposesWithin.readLooseItems_succ (within : ComposesWithin ending limit) (c : Composer) :
    Composes ending (Node.readLooseItems ending (limit + 1) c) := by
  rw [Node.readLooseItems]
  split
  · refine (within.readUnless _ _ _).bind fun _ _ => ?_
    exact (within.readLooseItems _).bind fun _ _ => .ok _
  · exact .ok _

theorem ComposesWithin.readEntries_succ (within : ComposesWithin ending limit) (c : Composer) :
    Composes ending (Node.readEntries ending (limit + 1) c) := by
  rw [Node.readEntries]
  split
  · refine (within.readUnless _ _ _).bind fun _ _ => ?_
    dsimp only
    split
    · refine (within.readUnless _ _ _).bind fun _ _ => ?_
      exact (within.readEntries _).bind fun _ _ => .ok _
    · exact (within.readEntries _).bind fun _ _ => .ok _
  · exact .ok _
  · exact composes_refuseAt _ _

theorem ComposesWithin.readFlowItems_succ (within : ComposesWithin ending limit) (first : Bool)
    (c : Composer) : Composes ending (Node.readFlowItems ending first (limit + 1) c) := by
  rw [Node.readFlowItems]
  refine .ite (.ok _) (.ite (composes_refuseAt _ _) ?_)
  dsimp only
  split
  · exact .ok _
  · refine (within.readUnless _ _ _).bind fun _ _ => ?_
    split
    · refine (within.readUnless _ _ _).bind fun _ _ => ?_
      exact (within.readFlowItems _ _).bind fun _ _ => .ok _
    · exact (within.readFlowItems _ _).bind fun _ _ => .ok _
  · refine (within.read _ _).bind fun _ _ => ?_
    exact (within.readFlowItems _ _).bind fun _ _ => .ok _

theorem ComposesWithin.readFlowEntries_succ (within : ComposesWithin ending limit) (first : Bool)
    (c : Composer) : Composes ending (Node.readFlowEntries ending first (limit + 1) c) := by
  rw [Node.readFlowEntries]
  refine .ite (.ok _) (.ite (composes_refuseAt _ _) ?_)
  dsimp only
  split
  · exact .ok _
  · refine (within.readUnless _ _ _).bind fun _ _ => ?_
    split
    · refine (within.readUnless _ _ _).bind fun _ _ => ?_
      exact (within.readFlowEntries _ _).bind fun _ _ => .ok _
    · exact (within.readFlowEntries _ _).bind fun _ _ => .ok _
  · refine (within.read _ _).bind fun _ _ => ?_
    exact (within.readFlowEntries _ _).bind fun _ _ => .ok _

theorem composesWithin (ending : Option Error) (limit : Nat) : ComposesWithin ending limit := by
  induction limit with
  | zero => constructor <;> intros <;> exact composes_refuse _
  | succ limit within =>
      constructor
      · exact within.read_succ
      · intro stops place c
        exact .ite (.ok _) (within.read _ _)
      · exact within.readItems_succ
      · exact within.readLooseItems_succ
      · exact within.readEntries_succ
      · exact within.readFlowItems_succ
      · exact within.readFlowEntries_succ

theorem composes_readDirectives (versioned : Bool) (handles : List (Text × Text))
    (tokens : List Token) : Composes ending (readDirectives versioned handles tokens) := by
  fun_induction readDirectives versioned handles tokens with
  | case1 => exact composes_refuse _
  | case2 => exact composes_refuse _
  | case3 => assumption
  | case4 => exact composes_refuse _
  | case5 => assumption
  | case6 => assumption
  | case7 => exact .ok _

theorem composes_alone (n : Node) (c : Composer) : Composes ending (alone ending n c) :=
  (composes_readDirectives _ _ _).bind fun _ _ => (composes_demand _).bind fun _ _ =>
    .ite (.ok _) (composes_refuse _)

theorem composes_document (place : Place) (limit : Nat) (c : Composer) :
    Composes ending (read ending place limit c >>= fun read => alone ending read.1 read.2) :=
  ((composesWithin ending limit).read place c).bind fun _ _ => composes_alone _ _

/-- Tokens are put together to a node, or they do not follow the grammar, or they come to an end
and what is behind them is wrong. -/
theorem composes_ofTokens (tokens : List Token) : Composes ending (ofTokens ending tokens) := by
  refine (composes_demand _).bind fun _ _ => ?_
  split
  case h_1 => exact .ok _
  case h_2 | h_3 =>
    refine (composes_readDirectives _ _ _).bind fun _ _ => ?_
    dsimp only
    split
    · exact .ite (composes_alone _ _) (composes_document _ _ _)
    · exact composes_refuseAt _ _
  case h_4 => exact composes_document _ _ _

theorem alone_ne_ok (e : Error) (n : Node) (c : Composer) (m : Option Node) :
    alone (some e) n c ≠ .ok m := by
  intro done
  obtain ⟨⟨handles, rest⟩, read, done⟩ := (Outcome.bind_eq_ok_iff _ _ _).mp done
  obtain ⟨_, asked, done⟩ := (Outcome.bind_eq_ok_iff _ _ _).mp done
  split at done
  case isTrue noToken =>
    rw [List.isEmpty_iff.mp noToken] at read
    cases read
    cases asked
  case isFalse => cases done

/-- No node is made of tokens behind which something is wrong. -/
theorem ofTokens_ne_ok (e : Error) (tokens : List Token) (m : Option Node) :
    ofTokens (some e) tokens ≠ .ok m := by
  intro done
  obtain ⟨_, asked, done⟩ := (Outcome.bind_eq_ok_iff _ _ _).mp done
  split at done
  case h_1 => cases asked
  case h_2 | h_3 =>
    obtain ⟨⟨handles, rest⟩, -, done⟩ := (Outcome.bind_eq_ok_iff _ _ _).mp done
    dsimp only at done
    split at done
    · split at done
      · exact alone_ne_ok e _ _ m done
      · obtain ⟨_, -, done⟩ := (Outcome.bind_eq_ok_iff _ _ _).mp done
        exact alone_ne_ok e _ _ m done
    · obtain ⟨_, -, done⟩ := (Outcome.bind_eq_ok_iff _ _ _).mp done
      cases done
  case h_4 =>
    obtain ⟨_, -, done⟩ := (Outcome.bind_eq_ok_iff _ _ _).mp done
    exact alone_ne_ok e _ _ m done

theorem ofText_eq_ok_iff (text : Text) (m : Option Node) :
    ofText text = .ok m ↔ ∃ tokens, tokensOf text = .ok tokens ∧ ofTokens none tokens = .ok m := by
  unfold ofText
  cases tokensOf text with
  | ok tokens => simp
  | error stop => simp [ofTokens_ne_ok]

/-- What keeps a text from being read as a node: it is malformed, or something in it asks for a
character or a version that does not exist. -/
theorem malformed_or_stops {text : Text} {e : Error} (refused : ofText text = .error e) :
    e.Malformed ∨ ∃ stop, tokensOf text = .error stop ∧ stop.error = e ∧ e.OfToken := by
  unfold ofText at refused
  cases scanned : tokensOf text with
  | ok tokens =>
      rw [scanned] at refused
      exact .inl ((composes_ofTokens tokens e refused).resolve_right nofun)
  | error stop =>
      rw [scanned] at refused
      rcases composes_ofTokens stop.tokens e refused with malformed | same
      · exact .inl malformed
      · obtain rfl := Option.some.inj same
        exact .inr ⟨stop, rfl, rfl, stops_tokensOf text stop scanned⟩

end Node

/-! ## Values -/

namespace Node

/-- The keys and the values of entries. -/
def parts (entries : List (Node × Node)) : List Node := entries.flatMap fun (k, v) => [k, v]

/-- A node is part of another one, or the other one itself. -/
inductive Within : Node → Node → Prop where
  | self {n : Node} : Within n n
  | item {m n : Node} {tag : Tag} {items : List Node} :
      n ∈ items → Within m n → Within m (.sequence tag items)
  | part {m n : Node} {tag : Tag} {entries : List (Node × Node)} :
      n ∈ parts entries → Within m n → Within m (.mapping tag entries)

/-- A node is tagged as a truth value, a number or a date, and denotes none. -/
inductive Denies (limit : Option Nat) : Node → Error → Prop where
  | bool {n : Node} {text : Text} {e : Error} :
      n.tag = .bool → n.text? = some text → boolOf text = .error e → Denies limit n e
  | int {n : Node} {text : Text} {e : Error} :
      n.tag = .int → n.text? = some text → intOf limit text = .error e → Denies limit n e
  | float {n : Node} {text : Text} {e : Error} :
      n.tag = .float → n.text? = some text → floatOf text = .error e → Denies limit n e
  | timestamp {text : Text} {e : Error} :
      timestampOf text = .error e → Denies limit (.scalar .timestamp text) e
  | mapping {entries : List (Node × Node)} :
      Denies limit (.mapping .timestamp entries) .mappingAsStamp

end Node

open Node

/-- The errors that the values of some nodes make. -/
inductive Error.OfNodes (limit : Option Nat) (nodes : List Node) : Error → Prop where
  | malformed (reason : String) (line : Option Nat) : OfNodes limit nodes (.malformed reason line)
  | denied {m n : Node} {e : Error} :
      n ∈ nodes → m.Within n → m.Denies limit e → OfNodes limit nodes e

section Values

variable {limit : Option Nat} {nodes others : List Node} {α β : Type}

/-- A part of a reader of scalars. -/
abbrev Constructs (limit : Option Nat) (nodes : List Node) (x : Except Error α) : Prop :=
  Raises (Error.OfNodes limit nodes) x

/-- A part of a reader of values, in whatever round it fails. -/
abbrev Makes (limit : Option Nat) (nodes : List Node) (x : Staged α) : Prop :=
  Raises (fun failure => Error.OfNodes limit nodes failure.2) x

theorem constructs_refuse (reason : String) :
    Constructs limit nodes (refuse reason : Except Error α) :=
  (raises_error_iff _).mpr (.malformed _ _)

theorem constructs_of_denies {x : Except Error α} {n : Node}
    (denies : ∀ e, x = .error e → n.Denies limit e) : Constructs limit [n] x :=
  fun e same => .denied (List.mem_singleton_self n) .self (denies e same)

theorem Error.OfNodes.mono {e : Error} (cause : OfNodes limit nodes e) (subset : nodes ⊆ others) :
    OfNodes limit others e := by
  cases cause with
  | malformed => exact .malformed _ _
  | denied member within denies => exact .denied (subset member) within denies

theorem Error.OfNodes.sequence {e : Error} (tag : Tag) (cause : OfNodes limit nodes e) :
    OfNodes limit [.sequence tag nodes] e := by
  cases cause with
  | malformed => exact .malformed _ _
  | denied member within denies =>
      exact .denied (List.mem_singleton_self _) (.item member within) denies

theorem Error.OfNodes.mapping {e : Error} {entries : List (Node × Node)} (tag : Tag)
    (cause : OfNodes limit (parts entries) e) : OfNodes limit [.mapping tag entries] e := by
  cases cause with
  | malformed => exact .malformed _ _
  | denied member within denies =>
      exact .denied (List.mem_singleton_self _) (.part member within) denies

/-! ### Rounds -/

theorem Constructs.now {x : Except Error α} (constructs : Constructs limit nodes x) :
    Makes limit nodes (Staged.now x) :=
  constructs.mapError fun _ cause => cause

theorem Makes.later {x : Staged α} (makes : Makes limit nodes x) : Makes limit nodes x.later :=
  makes.mapError fun _ cause => cause

theorem makes_refuse (reason : String) :
    Makes limit nodes (Staged.now (refuse reason : Except Error α)) :=
  (constructs_refuse reason).now

theorem Makes.both {x : Staged α} {y : Staged β} (first : Makes limit nodes x)
    (second : Makes limit nodes y) : Makes limit nodes (x.both y) := by
  cases x with
  | ok a =>
      cases y with
      | ok b => exact .ok _
      | error f => exact (raises_error_iff _).mpr (second f rfl)
  | error e =>
      cases y with
      | ok b => exact (raises_error_iff _).mpr (first e rfl)
      | error f =>
          refine (raises_error_iff _).mpr ?_
          split
          · exact second f rfl
          · exact first e rfl

theorem makes_all {xs : List (Staged α)} (each : ∀ x ∈ xs, Makes limit nodes x) :
    Makes limit nodes (Staged.all xs) := by
  induction xs with
  | nil => exact .ok _
  | cons x xs induction =>
      rw [List.forall_mem_cons] at each
      exact (each.1.both (induction each.2)).map

theorem Makes.map {x : Staged α} {f : α → β} (makes : Makes limit nodes x) :
    Makes limit nodes (f <$> x) :=
  Raises.map makes

theorem Makes.mono {x : Staged α} (makes : Makes limit nodes x) (subset : nodes ⊆ others) :
    Makes limit others x :=
  Raises.mono makes fun _ cause => cause.mono subset

theorem Makes.sequence {x : Staged α} (tag : Tag) (makes : Makes limit nodes x) :
    Makes limit [.sequence tag nodes] x :=
  Raises.mono makes fun _ cause => cause.sequence tag

theorem Makes.mapping {x : Staged α} {entries : List (Node × Node)} (tag : Tag)
    (makes : Makes limit (parts entries) x) : Makes limit [.mapping tag entries] x :=
  Raises.mono makes fun _ cause => cause.mapping tag

/-! ### Scalars -/

theorem constructs_bytesOf (text : Text) : Constructs limit nodes (bytesOf text) := by
  refine .ite (constructs_refuse _) ?_
  split
  · exact .ok _
  · exact constructs_refuse _

/-- The tag under which a node is read is its own, or that of a text. -/
def ReadsAs (tag : Tag) (n : Node) : Prop := tag = n.tag ∨ tag = .str

theorem readsAs_keyTag (n : Node) : ReadsAs (keyTag n.tag) n := by
  unfold ReadsAs keyTag
  split
  · exact .inr rfl
  · exact .inl rfl

/-- Among the nodes that have a text only scalars are read as dates. -/
theorem constructs_scalarOf {tag : Tag} {n : Node} {text : Text} (reads : ReadsAs tag n)
    (isText : n.text? = some text) (stamp : tag = .timestamp → n = .scalar .timestamp text) :
    Constructs limit [n] (scalarOf limit tag text) := by
  rcases reads with rfl | rfl
  · unfold scalarOf
    split
    case h_1 => exact .ok _
    case h_2 own => exact constructs_of_denies fun _ => .bool own isText
    case h_3 own => exact constructs_of_denies fun _ => .int own isText
    case h_4 own => exact constructs_of_denies fun _ => .float own isText
    case h_5 => exact constructs_bytesOf text
    case h_6 own =>
      rw [stamp own]
      exact constructs_of_denies fun _ => .timestamp
    case h_7 => exact .ok _
    case h_8 => exact constructs_refuse _
  · exact .ok _

theorem constructs_plainOf {tag : Tag} {n : Node} (reads : ReadsAs tag n) :
    Constructs limit [n] (plainOf limit tag n) := by
  unfold plainOf
  split
  case h_1 => exact constructs_refuse _
  case h_2 text isText =>
    split
    case h_1 own entries =>
      rcases reads with same | same
      · cases same
        exact constructs_of_denies fun e failed => by
          cases failed
          exact .mapping
      · cases same
    case h_2 other =>
      refine constructs_scalarOf reads isText ?_
      rintro rfl
      cases n with
      | scalar own found =>
          cases isText
          rcases reads with same | same
          · rw [show own = .timestamp from same.symm]
          · cases same
      | sequence own items => cases isText
      | mapping own entries => exact (other own entries rfl rfl).elim

theorem parts_cons (k v : Node) (rest : List (Node × Node)) :
    parts ((k, v) :: rest) = k :: v :: parts rest := rfl

end Values

/-! ### Collections -/

mutual

/-- A node has a value, or is malformed, or something in it denies its type. -/
theorem makes_made (limit : Option Nat) (tag : Tag) :
    ∀ n : Node, ReadsAs tag n → Makes limit [n] (made limit tag n)
  | .scalar own text, reads => by
      rw [made]
      exact .ite (makes_refuse _).later (constructs_plainOf reads).now
  | .sequence own items, reads => by
      unfold made
      split
      case h_1 => exact ((makes_all (makes_madeEach limit items)).sequence own).map.later
      case h_2 | h_3 => exact ((makes_all (makes_madePairs limit items)).sequence own).map.later
      case h_4 | h_5 => exact (makes_refuse _).later
      case h_6 => exact (constructs_plainOf reads).now
  | .mapping own entries, reads => by
      have each := makes_madeEntries limit entries
      have all : Makes limit [.mapping own entries] (if merges entries then
          Staged.all ((madeEntries limit entries).1 ++ (madeEntries limit entries).2)
        else Staged.now (refuse "expected mappings to bring in")) :=
        .ite ((makes_all fun x member => each x (List.mem_append.mp member)).mapping own)
          (makes_refuse _)
      unfold made
      dsimp only
      split
      case h_1 => exact all.map.later
      case h_2 => exact all.map.later
      case h_3 | h_4 | h_5 => exact (makes_refuse _).later
      case h_6 => exact (constructs_plainOf reads).now

theorem makes_madeEach (limit : Option Nat) :
    ∀ items : List Node, ∀ x ∈ madeEach limit items, Makes limit items x
  | [] => by simp [madeEach]
  | n :: rest => by
      rw [madeEach, List.forall_mem_cons]
      exact ⟨(makes_made limit n.tag n (.inl rfl)).mono (by simp),
        fun x member => (makes_madeEach limit rest x member).mono (by simp)⟩

theorem makes_madePairs (limit : Option Nat) :
    ∀ items : List Node, ∀ x ∈ madePairs limit items, Makes limit items x
  | [] => by simp [madePairs]
  | .mapping own [(k, v)] :: rest => by
      have key : Makes limit (parts [(k, v)]) (made limit k.tag k) :=
        (makes_made limit k.tag k (.inl rfl)).mono (by simp [parts])
      have value : Makes limit (parts [(k, v)]) (made limit v.tag v) :=
        (makes_made limit v.tag v (.inl rfl)).mono (by simp [parts])
      rw [madePairs, List.forall_mem_cons]
      exact ⟨((key.both value).map.mapping own).mono (by simp),
        fun x member => (makes_madePairs limit rest x member).mono (by simp)⟩
  | .scalar _ _ :: _ | .sequence _ _ :: _ | .mapping _ [] :: _ | .mapping _ (_ :: _ :: _) :: _ => by
      simp only [madePairs, List.forall_mem_singleton]
      exact makes_refuse _

theorem makes_madeEntries (limit : Option Nat) :
    ∀ entries : List (Node × Node), ∀ x,
      x ∈ (madeEntries limit entries).1 ∨ x ∈ (madeEntries limit entries).2 →
        Makes limit (parts entries) x
  | [] => by simp [madeEntries]
  | (k, v) :: rest => by
      have others := makes_madeEntries limit rest
      intro x member
      rw [madeEntries] at member
      dsimp only at member
      have further : (x ∈ (madeEntries limit rest).1 ∨ x ∈ (madeEntries limit rest).2) →
          Makes limit (parts ((k, v) :: rest)) x :=
        fun member => (others x member).mono (by simp [parts_cons])
      split at member
      · rcases member with member | member
        · rcases List.mem_append.mp member with brought | member
          · exact (makes_broughtBy limit v x brought).mono (by simp [parts])
          · exact further (.inl member)
        · exact further (.inr member)
      · rcases member with member | member
        · exact further (.inl member)
        · rcases List.mem_cons.mp member with rfl | member
          · have key : Makes limit (parts ((k, v) :: rest)) (made limit (keyTag k.tag) k) :=
              (makes_made limit _ k (readsAs_keyTag k)).mono (by simp [parts])
            have value : Makes limit (parts ((k, v) :: rest)) (made limit v.tag v) :=
              (makes_made limit v.tag v (.inl rfl)).mono (by simp [parts])
            exact .ite (makes_refuse _) (key.both value)
          · exact further (.inr member)

theorem makes_broughtBy (limit : Option Nat) :
    ∀ n : Node, ∀ x ∈ broughtBy limit n, Makes limit [n] x
  | .mapping own entries => by
      intro x member
      rw [broughtBy] at member
      exact (makes_madeEntries limit entries x (List.mem_append.mp member)).mapping own
  | .sequence own items => by
      intro x member
      rw [broughtBy] at member
      exact (makes_broughtByEach limit items x member).sequence own
  | .scalar _ _ => by simp [broughtBy]

theorem makes_broughtByEach (limit : Option Nat) :
    ∀ items : List Node, ∀ x ∈ broughtByEach limit items, Makes limit items x
  | [] => by simp [broughtByEach]
  | .mapping own entries :: rest => by
      intro x member
      rw [broughtByEach] at member
      dsimp only at member
      rw [List.append_assoc] at member
      rcases List.mem_append.mp member with later | first
      · exact (makes_broughtByEach limit rest x later).mono (by simp)
      · have makes := makes_madeEntries limit entries x (List.mem_append.mp first)
        exact (makes.mapping own).mono (by simp)
  | .scalar _ _ :: rest | .sequence _ _ :: rest => by
      intro x member
      rw [broughtByEach] at member
      · exact (makes_broughtByEach limit rest x member).mono (by simp)
      all_goals simp

end

theorem constructs_valueOf (limit : Option Nat) (n : Node) :
    Constructs limit [n] (valueOf limit n) :=
  (makes_made limit n.tag n (.inl rfl)).mapError fun _ cause => cause

/-- What keeps a text that may well follow the grammar from having a value: an escape for a
character that does not exist, a number in a directive that is too long, or a node that denies
its type. -/
inductive Error.Occurs (text : Text) (limit : Option Nat) : Error → Prop where
  | token {stop : Stop} : tokensOf text = .error stop → stop.error.OfToken →
      Occurs text limit stop.error
  | value {tokens : List Token} {n m : Node} {e : Error} : tokensOf text = .ok tokens →
      Node.ofTokens none tokens = .ok (some n) → m.Within n → m.Denies limit e →
      Occurs text limit e

theorem malformed_or_occurs {text : Text} {limit : Option Nat} {e : Error}
    (refused : load text limit = .error e) : e.Malformed ∨ e.Occurs text limit := by
  rw [load, Outcome.bind_eq_error_iff] at refused
  rcases refused with unread | ⟨document, composed, refused⟩
  · rcases Node.malformed_or_stops unread with malformed | ⟨stop, scanned, rfl, isOfToken⟩
    · exact .inl malformed
    · exact .inr (.token scanned isOfToken)
  · cases document with
    | none => cases refused
    | some n =>
        have value : valueOf limit n = .error e := (Outcome.map_eq_error_iff _ _ _).mp refused
        cases constructs_valueOf limit n e value with
        | malformed reason line => exact .inl (.intro reason line)
        | denied member within denies =>
            rw [List.mem_singleton.mp member] at within
            obtain ⟨tokens, scanned, composed⟩ := (Node.ofText_eq_ok_iff text _).mp composed
            exact .inr (.value scanned composed within denies)

end OutlineSearch.Yaml
