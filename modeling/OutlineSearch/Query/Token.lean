import OutlineSearch.Text.Blank

/-!
# Query tokens

A query is a sequence of tokens with blanks between them.  A quoted token must occur, a
token between backticks is a pattern, a word behind a dash must not occur, and any other
word is looked for approximately.  A delimited token runs up to its closing delimiter
and may hold blanks; a word runs up to the next blank.
-/

namespace OutlineSearch.Query

/-- What a token asks for. -/
inductive Kind where
  | required
  | excluded
  | pattern
  | fuzzy
deriving Repr, DecidableEq

structure Token where
  kind : Kind
  /-- The text without delimiters and without the dash. -/
  value : Text
  /-- Offset of the first character, delimiter or dash included. -/
  position : Nat
deriving Repr, DecidableEq

/-- What a delimited token stands between. -/
inductive Delimiter where
  | quote
  | backtick
deriving Repr, DecidableEq

namespace Delimiter

def char : Delimiter → Char
  | quote => '"'
  | backtick => Char.ofNat 96

/-- What a token between these delimiters asks for. -/
def kind : Delimiter → Kind
  | quote => .required
  | backtick => .pattern

def name : Delimiter → String
  | quote => "quote"
  | backtick => "backtick"

/-- The delimiter that a character is, if it is one. -/
def ofChar? (c : Char) : Option Delimiter :=
  if c = '"' then some quote else if c = Char.ofNat 96 then some backtick else none

end Delimiter

/-- Why a text is no sequence of tokens. -/
inductive TokenError where
  /-- A delimiter that no second one follows. -/
  | unclosed (delimiter : Delimiter) (position : Nat)
  /-- Two delimiters with nothing between them. -/
  | nothingBetween (delimiter : Delimiter) (position : Nat)
deriving Repr, DecidableEq

/-- Where the token that is refused begins. -/
def TokenError.position : TokenError → Nat
  | .unclosed _ p | .nothingBetween _ p => p

def TokenError.message : TokenError → String
  | .unclosed d position =>
    let name := d.name
    s!"Unterminated {name} at position {position}"
  | .nothingBetween d position =>
    let name := d.name
    s!"Empty token between {name}s at position {position}"

def Token.ofWord (position : Nat) : Text → Token
  | '-' :: c :: rest => ⟨.excluded, c :: rest, position⟩
  | word => ⟨.fuzzy, word, position⟩

def inWord (c : Char) : Bool := !Text.isBlank c

theorem length_dropWhile_le (p : Char → Bool) (text : Text) :
    (text.dropWhile p).length ≤ text.length :=
  (List.dropWhile_suffix p).length_le

/-- The tokens of `text`, which begins at offset `position` of the query. -/
def tokensFrom (position : Nat) (text : Text) : Except TokenError (List Token) :=
  match text with
  | [] => .ok []
  | c :: rest =>
    if Text.isBlank c then tokensFrom (position + 1) rest
    else match Delimiter.ofChar? c with
      | some d =>
        let value := rest.takeWhile (· != d.char)
        match _shorter : rest.dropWhile (· != d.char) with
        | [] => .error (.unclosed d position)
        | _ :: after =>
          if value.isEmpty then .error (.nothingBetween d position)
          else
            (⟨d.kind, value, position⟩ :: ·) <$>
              tokensFrom (position + value.length + 2) after
      | none =>
        let tail := rest.takeWhile inWord
        (Token.ofWord position (c :: tail) :: ·) <$>
          tokensFrom (position + tail.length + 1) (rest.dropWhile inWord)
termination_by text.length
decreasing_by
  · simp
  · have := length_dropWhile_le (· != d.char) rest
    simp_all
    omega
  · have := length_dropWhile_le inWord rest
    simp
    omega

def tokenize (raw : Text) : Except TokenError (List Token) := tokensFrom 0 raw

end OutlineSearch.Query
