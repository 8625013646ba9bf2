import OutlineSearch.Text.Blank
import OutlineSearch.Text.Case
import OutlineSearch.Text.Letter
import OutlineSearch.Pattern.Syntax

/-!
# Matching a pattern

A node matches from a place on and hands the place behind its match to a continuation;
if the continuation fails, the node tries its next possibility.  The order of the
possibilities is that of the pattern: the first branch before the second, more rounds
before fewer where a repetition is greedy.
-/

namespace OutlineSearch.Pattern

/-- A place between two characters of a text. -/
structure Place where
  /-- The characters before the place, the nearest first. -/
  before : Text
  /-- The characters after the place. -/
  after : Text
  /-- How many characters stand before the place. -/
  index : Nat
deriving Repr, DecidableEq

/-- The next character, and the place behind it. -/
def Place.next? (p : Place) : Option (Char × Place) :=
  match p.after with
  | [] => none
  | c :: rest => some (c, ⟨c :: p.before, rest, p.index + 1⟩)

/-- The place `n` characters earlier, if there is one. -/
def Place.back? (p : Place) : Nat → Option Place
  | 0 => some p
  | n + 1 =>
    match p.before with
    | [] => none
    | c :: before => Place.back? ⟨before, c :: p.after, p.index - 1⟩ n

/-- The contents of the captures, the latest first. -/
abbrev Captures := List (Nat × Text)

/-- Whether a character belongs to a class. -/
def Category.contains (ascii : Bool) (c : Char) : Category → Bool
  | .digit => if ascii then c.isDigit else Text.isDecimal c
  | .space =>
    if ascii then c == ' ' || (9 ≤ c.toNat && c.toNat ≤ 13) else Text.isBlank c
  | .word => if ascii then c.isAlphanum || c == '_' else Text.isWordChar c

/-- The characters that count as `c` in a comparison. -/
def Comparison.variants (k : Comparison) (c : Char) : List Char :=
  if !k.ignoreCase then [c]
  else if k.ascii then
    if c.isLower then [c, c.toUpper] else if c.isUpper then [c, c.toLower] else [c]
  else c :: Text.caseVariants c

/-- Whether a member of a set covers one of some equal characters. -/
def SetItem.covers (ascii : Bool) (variants : List Char) : SetItem → Bool
  | .code value => variants.any (·.toNat == value)
  | .range first last => variants.any fun v => first ≤ v.toNat && v.toNat ≤ last
  | .category kind negated => variants.head?.any fun v => kind.contains ascii v != negated

def inSet (negated : Bool) (items : List SetItem) (k : Comparison) (c : Char) : Bool :=
  items.any (·.covers k.ascii (k.variants c)) != negated

/-- Whether the text around a place begins or goes on with a word character there. -/
def isWordAt (ascii : Bool) (text : Text) : Bool :=
  text.head?.any fun c => Category.word.contains ascii c

def Anchor.holds (p : Place) : Anchor → Bool
  | .lineStart everyLine => p.before.isEmpty || (everyLine && p.before.head? == some '\n')
  | .lineEnd everyLine =>
    p.after.isEmpty || (if everyLine then p.after.head? == some '\n' else p.after == ['\n'])
  | .textStart => p.before.isEmpty
  | .textEnd => p.after.isEmpty
  | .wordEdge ascii => isWordAt ascii p.before != isWordAt ascii p.after
  | .wordInside ascii =>
    !(p.before.isEmpty && p.after.isEmpty) && isWordAt ascii p.before == isWordAt ascii p.after

/-- Whether two characters of a text match each other. -/
def Comparison.agrees (k : Comparison) (a b : Char) : Bool :=
  if !k.ignoreCase then a == b
  else if k.ascii then a.toLower == b.toLower
  else Text.lowerChar a == Text.lowerChar b

/-- The place behind `text`, if it comes next. -/
def Place.skip? (k : Comparison) (p : Place) : Text → Option Place
  | [] => some p
  | t :: text =>
    match p.next? with
    | some (c, q) => if k.agrees c t then q.skip? k text else none
    | none => none

/-- What a match hands on: the place behind it and the captures. -/
abbrev Outcome := Option (Place × Captures)

/-- What is to be matched after a node. -/
abbrev Continuation := Place → Captures → Outcome

/-- Something that matches from a place on. -/
abbrev Step := Place → Captures → Continuation → Outcome

/-- Whether another round is allowed after `done` rounds. -/
def mayRepeat (most : Option Nat) (done : Nat) : Bool :=
  match most with
  | some most => done < most
  | none => true

/-- Further rounds of `body` after `done` of them.  `last` is where the latest optional
round began; a round that matched the empty text ends the repetition.  The first argument
is a number of rounds that cannot be exceeded. -/
def repeatFrom (lazy : Bool) (least : Nat) (most : Option Nat) (body : Step) (k : Continuation) :
    Nat → Nat → Option Nat → Place → Captures → Outcome
  | 0, _, _, p, g => k p g
  | rounds + 1, done, last, p, g =>
    if done < least then
      body p g fun q h => repeatFrom lazy least most body k rounds (done + 1) last q h
    else
      let more : Unit → Outcome := fun _ =>
        if mayRepeat most done && last != some p.index then
          body p g fun q h =>
            repeatFrom lazy least most body k rounds (done + 1) (some p.index) q h
        else none
      if lazy then (k p g).orElse more else (more ()).orElse fun _ => k p g

/-- As many rounds of `body` as possible, each matched in its first way only. -/
def repeatAll (least : Nat) (most : Option Nat) (body : Step) :
    Nat → Nat → Option Nat → Place → Captures → Outcome
  | 0, _, _, p, g => some (p, g)
  | rounds + 1, done, last, p, g =>
    if done < least then
      match body p g fun q h => some (q, h) with
      | some (q, h) => repeatAll least most body rounds (done + 1) last q h
      | none => none
    else if mayRepeat most done && last != some p.index then
      match body p g fun q h => some (q, h) with
      | some (q, h) => repeatAll least most body rounds (done + 1) (some p.index) q h
      | none => some (p, g)
    else some (p, g)

/-- No repetition from `p` on takes more rounds: beyond the `least` ones, every round but
the last passes over a character. -/
def maxRounds (least : Nat) (p : Place) : Nat := least + p.after.length + 2

/-- Matches a node from a place on, and then what follows it. -/
def Node.run : Node → Step
  | .empty, p, g, k => k p g
  | .set negated items comparison, p, g, k =>
    match p.next? with
    | some (c, q) => if inSet negated items comparison c then k q g else none
    | none => none
  | .any newline, p, g, k =>
    match p.next? with
    | some (c, q) => if newline || c ≠ '\n' then k q g else none
    | none => none
  | .anchor condition, p, g, k => if condition.holds p then k p g else none
  | .seq a b, p, g, k => a.run p g fun q h => b.run q h k
  | .alt a b, p, g, k => (a.run p g k).orElse fun _ => b.run p g k
  | .rounds .possessive least most body, p, g, k =>
    match repeatAll least most (fun q h k => body.run q h k) (maxRounds least p) 0 none p g with
    | some (q, h) => k q h
    | none => none
  | .rounds greed least most body, p, g, k =>
    repeatFrom (greed == .lazy) least most (fun q h k => body.run q h k) k
      (maxRounds least p) 0 none p g
  | .capture number body, p, g, k =>
    body.run p g fun q h => k q ((number, p.after.take (q.index - p.index)) :: h)
  | .group body, p, g, k => body.run p g k
  | .again number comparison, p, g, k =>
    match g.lookup number with
    | some text =>
      match p.skip? comparison text with
      | some q => k q g
      | none => none
    | none => none
  | .atomic body, p, g, k =>
    match body.run p g fun q h => some (q, h) with
    | some (q, h) => k q h
    | none => none
  | .ahead negated body, p, g, k =>
    match body.run p g fun q h => some (q, h), negated with
    | some (_, h), false => k p h
    | none, true => k p g
    | _, _ => none
  | .behind negated width body, p, g, k =>
    let found := match p.back? width.least with
      | some q => body.run q g fun q h => some (q, h)
      | none => none
    match found, negated with
    | some (_, h), false => k p h
    | none, true => k p g
    | _, _ => none
  | .choice number yes no, p, g, k =>
    if (g.lookup number).isSome then yes.run p g k else no.run p g k

/-- The first match that begins at `p` or later. -/
def Node.searchFrom (n : Node) (before : Text) (index : Nat) : Text → Outcome
  | [] => n.run ⟨before, [], index⟩ [] fun q h => some (q, h)
  | c :: rest =>
    match n.run ⟨before, c :: rest, index⟩ [] fun q h => some (q, h) with
    | some found => some found
    | none => n.searchFrom (c :: before) (index + 1) rest

end OutlineSearch.Pattern

namespace OutlineSearch

def Pattern.matchesIn (p : Pattern) (text : Text) : Bool :=
  (p.node.searchFrom [] 0 text).isSome

end OutlineSearch
