import OutlineSearch.Pattern.Fault

/-!
# Tokens of a pattern

A pattern is read token by token: a token is a character, or a backslash with the
character behind it.  A backslash that ends the pattern is no token.  It counts as the
first mistake as soon as the tokens in front of it are used up, so every refusal says
whether tokens were left.
-/

namespace OutlineSearch.Pattern

/-- A character or an escaped character, with its offset in the pattern. -/
structure Token where
  char : Char
  escaped : Bool
  position : Nat
deriving Repr, DecidableEq

/-- The token as it stands in the pattern. -/
def Token.text (t : Token) : Text := if t.escaped then ['\\', t.char] else [t.char]

/-- Whether a token is the character `c` itself, not escaped. -/
def Token.isPlain (c : Char) (t : Token) : Bool := !t.escaped && t.char == c

def tokensFrom (position : Nat) : Text → List Token
  | [] => []
  | ['\\'] => []
  | '\\' :: c :: rest => ⟨c, true, position⟩ :: tokensFrom (position + 2) rest
  | c :: rest => ⟨c, false, position⟩ :: tokensFrom (position + 1) rest

/-- Whether a text ends in a backslash that escapes nothing. -/
def hasDanglingEscape : Text → Bool
  | [] => false
  | ['\\'] => true
  | '\\' :: _ :: rest => hasDanglingEscape rest
  | _ :: rest => hasDanglingEscape rest

/-- The tokens that are still to be read, and the offset at which the pattern ends. -/
structure Rest where
  tokens : List Token
  stop : Nat

/-- A refusal, and whether it came after the last token had been read. -/
structure Stop where
  fault : Fault
  exhausted : Bool

namespace Rest

/-- The offset of the next token, or the end of the pattern. -/
def position (r : Rest) : Nat :=
  match r.tokens with
  | [] => r.stop
  | t :: _ => t.position

/-- Whether the next token is the character `c` itself. -/
def startsWith (c : Char) (r : Rest) : Bool :=
  match r.tokens with
  | [] => false
  | t :: _ => t.isPlain c

def skip (r : Rest) : Rest := { r with tokens := r.tokens.tail }

def isEmpty (r : Rest) : Bool := r.tokens.isEmpty

/-- Refuses the pattern at an offset. -/
def refuseAt {α : Type} (r : Rest) (reason : Reason) (position : Nat) : Except Stop α :=
  .error ⟨.defect (.here reason position), r.isEmpty⟩

/-- Refuses the pattern `back` characters before the next token. -/
def refuse {α : Type} (r : Rest) (reason : Reason) (back : Nat) : Except Stop α :=
  r.refuseAt reason (r.position - back)

/-- Refuses the pattern for a limit it exceeds. -/
def overrun {α : Type} (r : Rest) (o : Overrun) : Except Stop α :=
  .error ⟨.overrun o, r.isEmpty⟩

end Rest

/-- Takes up to `limit` characters that satisfy `p`. -/
def takeChars (p : Char → Bool) : Nat → Rest → Text × Rest
  | limit + 1, ⟨t :: rest, stop⟩ =>
    if !t.escaped && p t.char then
      let (taken, after) := takeChars p limit ⟨rest, stop⟩
      (t.char :: taken, after)
    else ([], ⟨t :: rest, stop⟩)
  | _, r => ([], r)

/-- Splits tokens at the first one that is the character `terminator`. -/
def splitAtChar (terminator : Char) : List Token → Text × Option (List Token)
  | [] => ([], none)
  | t :: rest =>
    if t.isPlain terminator then ([], some rest)
    else
      let (name, after) := splitAtChar terminator rest
      (t.text ++ name, after)

/-- Reads a name that ends before `terminator`; `what` says what the name is of. -/
def readName (what : String) (terminator : Char) (r : Rest) : Except Stop (Text × Rest) :=
  match splitAtChar terminator r.tokens with
  | (name, none) =>
    let r : Rest := { r with tokens := [] }
    if name.isEmpty then r.refuse (.missing what) 0
    else r.refuse (.unterminatedName terminator) name.length
  | (name, some after) =>
    let r : Rest := { r with tokens := after }
    if name.isEmpty then r.refuse (.missing what) 1 else .ok (name, r)

end OutlineSearch.Pattern
