import OutlineSearch.Text.Numeral
import OutlineSearch.Text.Utf8
import OutlineSearch.Yaml.Scalar

/-!
# YAML tokens

The structure of a text, given by indentation and by brackets, is made explicit as tokens.
What is the key of a mapping is known only when the colon behind it is read; then the
tokens that announce the key are put in front of it.
-/

namespace OutlineSearch.Yaml

/-- What a line that begins with a percent sign declares. -/
inductive Directive where
  | version (major : Nat)
  | handle (name expansion : Text)
  | other
deriving Repr, DecidableEq

inductive Token where
  | directive (d : Directive)
  | documentStart
  | documentEnd
  | blockSequenceStart
  | blockMappingStart
  | blockEnd
  | flowSequenceStart
  | flowSequenceEnd
  | flowMappingStart
  | flowMappingEnd
  | entry
  | comma
  | key
  | value
  | alias (name : Text)
  | anchor (name : Text)
  | tag (handle : Option Text) (rest : Text)
  | scalar (text : Text) (plain : Bool)
deriving Repr, DecidableEq

namespace Source

/-- Takes the name behind the sign of an anchor or an alias. -/
def takeAnchor (s : Source) : Except Error (Text × Source) :=
  let (name, s) := s.next.takeWhile isNameChar
  if name.isEmpty then s.refuse "expected the name of an anchor"
  else if endsWord s.peek || "?:,]\x7d%@\x60".toList.contains (s.peek.getD ' ') then .ok (name, s)
  else s.refuse "found an unexpected character in the name of an anchor"

/-- Whether a character may stand in the address that a tag is. -/
def isAddressChar (c : Char) : Bool :=
  c.isAlphanum || "-;/?:@&=+$,_.!~*'()[]".toList.contains c

/-- The byte that an escape in an address stands for. -/
def addressByte? : Text → Option UInt8
  | '%' :: a :: b :: _ =>
    if Pattern.isHex a && Pattern.isHex b then
      some (UInt8.ofNat (Pattern.numeralValue 16 [a, b]))
    else none
  | _ => none

/-- Takes escapes in an address that stand one after the other. -/
def takeAddressBytes : Nat → Source → List UInt8 × Source
  | 0, s => ([], s)
  | limit + 1, s =>
    match addressByte? s.rest with
    | some b =>
      let (more, s) := takeAddressBytes limit (s.skip 3)
      (b :: more, s)
    | none => ([], s)

def takeAddress : Nat → Source → Except Error (Text × Source)
  | 0, s => .ok ([], s)
  | limit + 1, s =>
    if s.isAt '%' then do
      let (bytes, s) := takeAddressBytes (s.rest.length + 1) s
      if s.isAt '%' then s.refuse "expected two hexadecimal digits"
      else match Utf8.decode bytes with
        | .error _ => s.refuse "an address is not UTF-8"
        | .ok text => do
          let (more, s) ← takeAddress limit s
          .ok (text ++ more, s)
    else
      let (text, s) := s.takeWhile isAddressChar
      if text.isEmpty then .ok ([], s)
      else do
        let (more, s) ← takeAddress limit s
        .ok (text ++ more, s)

/-- Takes an address, which must not be empty. -/
def takeSomeAddress (s : Source) : Except Error (Text × Source) := do
  let (text, after) ← takeAddress (s.rest.length + 1) s
  if s.rest.length = after.rest.length then s.refuse "expected an address" else .ok (text, after)

/-- Takes the handle of a tag: an exclamation mark, or a name between two. -/
def takeHandle (s : Source) : Except Error (Text × Source) :=
  if !s.isAt '!' then s.refuse "expected an exclamation mark"
  else if s.next.isAt ' ' then .ok (['!'], s.next)
  else
    let (name, after) := s.next.takeWhile isNameChar
    if after.isAt '!' then .ok ('!' :: name ++ ['!'], after.next)
    else after.refuse "expected an exclamation mark"

/-- Whether an exclamation mark follows before the next space or the end of the line. -/
def hasHandle (s : Source) : Bool :=
  (s.rest.takeWhile fun c => c != ' ' && !isBreak c).contains '!'

def takeTag (s : Source) : Except Error (Token × Source) := do
  let after := s.next
  let (token, s) ←
    if after.isAt '<' then do
      let (address, s) ← takeSomeAddress after.next
      if s.isAt '>' then .ok (Token.tag none address, s.next)
      else s.refuse "expected the end of a tag"
    else if endsWord after.peek then .ok (Token.tag none ['!'], after)
    else do
      let (handle, s) ← if hasHandle after then takeHandle s else .ok (['!'], after)
      let (address, s) ← takeSomeAddress s
      .ok (Token.tag (some handle) address, s)
  if endsItem s.peek then .ok (token, s) else s.refuse "expected a space behind a tag"

def takeNumber (s : Source) : Except Error (Nat × Source) :=
  let (digits, after) := s.takeWhile Char.isDigit
  if digits.isEmpty then s.refuse "expected a digit"
  else if Text.maxDigits < digits.length then
    .error (.badValue (Text.tooManyDigits digits.length))
  else .ok (Pattern.numeralValue 10 digits, after)

def takeVersion (s : Source) : Except Error (Directive × Source) := do
  let (major, s) ← takeNumber s.dropSpaces
  if !s.isAt '.' then s.refuse "expected a point in the version"
  else
    let (_, s) ← takeNumber s.next
    if endsItem s.peek then .ok (.version major, s) else s.refuse "expected a digit or a space"

/-- Takes a handle and what it stands for in a directive. -/
def takeHandleDirective (s : Source) : Except Error (Directive × Source) := do
  let (name, s) ← takeHandle s.dropSpaces
  if !s.isAt ' ' then s.refuse "expected a space behind a handle"
  else
    let (expansion, s) ← takeSomeAddress s.dropSpaces
    if endsItem s.peek then .ok (.handle name expansion, s)
    else s.refuse "expected a space behind an address"

def takeDirective (s : Source) : Except Error (Directive × Source) := do
  let (name, after) := s.next.takeWhile isNameChar
  if name.isEmpty then s.refuse "expected the name of a directive"
  else if !endsItem after.peek then after.refuse "expected a space behind the name of a directive"
  else
    let (directive, after) ←
      if name = "YAML".toList then takeVersion after
      else if name = "TAG".toList then takeHandleDirective after
      else .ok (.other, after.dropWhile fun c => !isBreak c)
    let after ← after.endLine
    .ok (directive, after)

end Source

/-- A place where a key may have begun that has not been followed by a colon yet. -/
structure PossibleKey where
  /-- How many tokens stand in front of it. -/
  position : Nat
  /-- Whether the text is wrong if no colon follows. -/
  required : Bool
  index : Nat
  line : Nat
  column : Nat
deriving Repr, DecidableEq

/-- What a reader of tokens knows. -/
structure Lexer where
  source : Source
  /-- The tokens read so far, the last one first. -/
  tokens : List Token
  /-- The column of the innermost block, -1 outside of all. -/
  indent : Int
  /-- The columns of the blocks around it. -/
  outer : List Int
  /-- How many brackets are open. -/
  depth : Nat
  /-- Whether a key may begin here. -/
  keyAllowed : Bool
  /-- The possible keys, with the number of brackets that were open. -/
  keys : List (Nat × PossibleKey)

/-- The tokens of a text that can be read no further, and what is wrong behind them. -/
structure Stop where
  tokens : List Token
  error : Error

namespace Lexer

/-- A reader at the beginning of a text. -/
def start (text : Text) : Lexer :=
  let s := Source.ofText text
  let s := if s.isAt byteOrderMark then s.next else s
  ⟨s, [], -1, [], 0, true, []⟩

def refuse {α : Type} (x : Lexer) (reason : String) : Except Error α := x.source.refuse reason

def push (t : Token) (x : Lexer) : Lexer := { x with tokens := t :: x.tokens }

/-- Passes spaces, comments and line breaks.  Behind a line break outside of brackets a key
may begin. -/
def toNextToken (x : Lexer) : Nat → Lexer
  | 0 => x
  | limit + 1 =>
    let s := x.source.dropSpaces.dropComment
    if s.peek.any isBreak then
      let keyAllowed := x.keyAllowed || x.depth == 0
      toNextToken { x with source := s.takeBreak.2, keyAllowed := keyAllowed } limit
    else { x with source := s }

/-- Whether a possible key cannot be one any more: keys stand on one line and are short. -/
def isStale (x : Lexer) (k : PossibleKey) : Bool :=
  k.line != x.source.line || k.index + 1024 < x.source.index

/-- Drops the possible keys that cannot be keys any more. -/
def dropStale (x : Lexer) : Except Error Lexer :=
  if x.keys.any fun (_, k) => x.isStale k && k.required then x.refuse "expected a colon"
  else .ok { x with keys := x.keys.filter fun (_, k) => !x.isStale k }

/-- Drops the possible key between the brackets that are open. -/
def dropKey (x : Lexer) : Except Error Lexer :=
  match x.keys.lookup x.depth with
  | none => .ok x
  | some k =>
    if k.required then x.refuse "expected a colon"
    else .ok { x with keys := x.keys.filter fun (depth, _) => depth != x.depth }

/-- Notes that a key may begin here. -/
def noteKey (x : Lexer) : Except Error Lexer :=
  if !x.keyAllowed then .ok x
  else do
    let s := x.source
    let required := x.depth == 0 && x.indent == (s.column : Int)
    let x ← x.dropKey
    let k : PossibleKey := ⟨x.tokens.length, required, s.index, s.line, s.column⟩
    .ok { x with keys := (x.depth, k) :: x.keys }

/-- Ends the blocks that are indented more than `column`. -/
def endBlocks (column : Int) (x : Lexer) : Lexer :=
  if x.depth != 0 then x else go x.outer x
where
  go : List Int → Lexer → Lexer
    | [], x => x
    | around :: outer, x =>
      if column < x.indent then
        go outer { x with indent := around, outer := outer, tokens := .blockEnd :: x.tokens }
      else x

/-- Begins a block at `column` if that is further in than the innermost block: the token is
put in front of the last `back` tokens. -/
def beginBlock (t : Token) (column : Nat) (back : Nat) (x : Lexer) : Lexer :=
  if x.indent < (column : Int) then
    { x with indent := column, outer := x.indent :: x.outer,
             tokens := x.tokens.take back ++ t :: x.tokens.drop back }
  else x

/-- Passes `n` characters that are a token. -/
def passAs (t : Token) (n : Nat) (x : Lexer) : Lexer := { x with source := x.source.skip n }.push t

/-- Ends all blocks and forgets about keys, as documents and directives do. -/
def atMargin (x : Lexer) : Except Error Lexer := do
  let x ← (x.endBlocks (-1)).dropKey
  .ok { x with keyAllowed := false }

def openBracket (t : Token) (x : Lexer) : Except Error Lexer := do
  let x ← x.noteKey
  .ok ({ x with depth := x.depth + 1, keyAllowed := true }.passAs t 1)

def closeBracket (t : Token) (x : Lexer) : Except Error Lexer := do
  let x ← x.dropKey
  if x.depth = 0 then x.refuse "found a closing bracket that no bracket opens"
  else .ok ({ x with depth := x.depth - 1, keyAllowed := false }.passAs t 1)

def comma (x : Lexer) : Except Error Lexer := do
  let x ← x.dropKey
  .ok ({ x with keyAllowed := true }.passAs .comma 1)

/-- Reads the dash of an entry. -/
def entry (x : Lexer) : Except Error Lexer := do
  if x.depth = 0 && !x.keyAllowed then x.refuse "no entry of a sequence may begin here"
  else
    let x := if x.depth = 0 then x.beginBlock .blockSequenceStart x.source.column 0 else x
    let x ← x.dropKey
    .ok ({ x with keyAllowed := true }.passAs .entry 1)

/-- Reads the question mark of a key. -/
def explicitKey (x : Lexer) : Except Error Lexer := do
  if x.depth = 0 && !x.keyAllowed then x.refuse "no key may begin here"
  else
    let x := if x.depth = 0 then x.beginBlock .blockMappingStart x.source.column 0 else x
    let x ← x.dropKey
    .ok ({ x with keyAllowed := x.depth == 0 }.passAs .key 1)

/-- Reads the colon of a value.  If a possible key stands in front of it, that is a key. -/
def value (x : Lexer) : Except Error Lexer := do
  match x.keys.lookup x.depth with
  | some k =>
    let back := x.tokens.length - k.position
    let x := { x with
      keys := x.keys.filter fun (depth, _) => depth != x.depth
      tokens := x.tokens.take back ++ Token.key :: x.tokens.drop back }
    let x := if x.depth = 0 then x.beginBlock .blockMappingStart k.column (back + 1) else x
    .ok ({ x with keyAllowed := false }.passAs .value 1)
  | none =>
    if x.depth = 0 && !x.keyAllowed then x.refuse "no value may begin here"
    else
      let x := if x.depth = 0 then x.beginBlock .blockMappingStart x.source.column 0 else x
      let x ← { x with keyAllowed := x.depth == 0 }.dropKey
      .ok (x.passAs .value 1)

/-- Reads something that may be a key, by a function that takes it from the source. -/
def keyLike (take : Source → Except Error (Token × Source)) (x : Lexer) :
    Except Error Lexer := do
  let x ← x.noteKey
  let (t, s) ← take x.source
  .ok ({ x with keyAllowed := false, source := s }.push t)

def blockScalar (fold : Bool) (x : Lexer) : Except Error Lexer := do
  let x ← { x with keyAllowed := true }.dropKey
  let (text, s) ← x.source.takeBlock fold x.indent
  .ok ({ x with source := s }.push (.scalar text false))

def plainScalar (x : Lexer) : Except Error Lexer := do
  let x ← x.noteKey
  let (text, brokeLine, s) := x.source.takePlain (x.depth != 0) (x.indent + 1).toNat
  .ok ({ x with keyAllowed := brokeLine, source := s }.push (.scalar text true))

def beginsPlain (x : Lexer) (c : Char) : Bool :=
  !(endsWord (some c) || "-?:,[]\x7b\x7d#&*!|>'\"%@\x60".toList.contains c)
    || (!endsWord x.source.next.peek && (c == '-' || (x.depth == 0 && (c == '?' || c == ':'))))

/-- Reads a quoted scalar as a token. -/
def takeQuotedToken (double : Bool) (s : Source) : Except Error (Token × Source) := do
  let (text, s) ← s.takeQuoted double
  .ok (.scalar text false, s)

/-- Reads the next token, which begins with `c`, and what has to be put in front of it. -/
def token (c : Char) (x : Lexer) : Except Error Lexer :=
  let s := x.source
  let wordEnds := endsWord s.next.peek
  if c == '%' && s.column == 0 then do
    let x ← x.atMargin
    let (d, s) ← x.source.takeDirective
    .ok ({ x with source := s }.push (.directive d))
  else if s.column == 0 && s.isSeparator then do
    let x ← x.atMargin
    .ok (x.passAs (if c == '-' then .documentStart else .documentEnd) 3)
  else if c == '[' then x.openBracket .flowSequenceStart
  else if c == '\x7b' then x.openBracket .flowMappingStart
  else if c == ']' then x.closeBracket .flowSequenceEnd
  else if c == '\x7d' then x.closeBracket .flowMappingEnd
  else if c == ',' then x.comma
  else if c == '-' && wordEnds then x.entry
  else if c == '?' && (x.depth != 0 || wordEnds) then x.explicitKey
  else if c == ':' && (x.depth != 0 || wordEnds) then x.value
  else if c == '*' then x.keyLike fun s => do
    let (name, s) ← s.takeAnchor
    .ok (.alias name, s)
  else if c == '&' then x.keyLike fun s => do
    let (name, s) ← s.takeAnchor
    .ok (.anchor name, s)
  else if c == '!' then x.keyLike Source.takeTag
  else if c == '|' && x.depth == 0 then x.blockScalar false
  else if c == '>' && x.depth == 0 then x.blockScalar true
  else if c == '\'' then x.keyLike (takeQuotedToken false)
  else if c == '"' then x.keyLike (takeQuotedToken true)
  else if x.beginsPlain c then x.plainScalar
  else x.refuse "found a character that cannot begin anything"

/-- Passes what stands in front of a token, and drops the keys that cannot be keys any more. -/
def settle (x : Lexer) : Except Error Lexer :=
  (x.toNextToken (x.source.rest.length + 1)).dropStale

/-- Reads the token in front of the reader and returns the reader behind it, or all tokens at the
end of the text. -/
def take (x : Lexer) : Except Error (Lexer ⊕ List Token) :=
  match x.source.peek with
  | none => (fun x => .inr x.tokens.reverse) <$> (x.endBlocks (-1)).dropKey
  | some c => .inl <$> x.token c

/-- Goes to the next token, where blocks may end, and reads it. -/
def step (x : Lexer) : Except Error (Lexer ⊕ List Token) := do
  let x ← x.settle
  (x.endBlocks x.source.column).take

/-- What is known of the tokens when the reader cannot go on.  A token that may be a key is not
known yet, for more would have to be put in front of it. -/
def stop (x : Lexer) (e : Error) : Stop :=
  let positions := (x.keys.filter fun (_, k) => !x.isStale k).map fun (_, k) => k.position
  ⟨x.tokens.reverse.take (positions.foldl min x.tokens.length), e⟩

/-- Reads all tokens.  Every step but the last uses up a character, so `limit` steps do if
there are fewer characters. -/
def run : Nat → Lexer → Except Stop (List Token)
  | 0, x => (x.refuse "found text without an end").mapError x.stop
  | limit + 1, x =>
    match x.step with
    | .error e => .error (x.stop e)
    | .ok (.inr tokens) => .ok tokens
    | .ok (.inl behind) => run limit behind

end Lexer

def tokensOf (text : Text) : Except Stop (List Token) :=
  match text.find? fun c => !isAllowed c with
  | some _ => .error ⟨[], .malformed "found a character that is not allowed" none⟩
  | none => (Lexer.start text).run (text.length + 1)

end OutlineSearch.Yaml
