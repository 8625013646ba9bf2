import OutlineSearch.Pattern.Matcher
import OutlineSearch.Pattern.Reader
import OutlineSearch.Query.Token

/-!
# Queries

A query keeps its tokens by kind: what must occur, what must not, the patterns that must
match, and the terms that are only scored.  The first three decide whether a text matches
at all.
-/

namespace OutlineSearch

structure Query where
  /-- The query as it was typed. -/
  full : Text
  /-- Texts that must all occur. -/
  required : List Text
  /-- Texts of which none may occur. -/
  excluded : List Text
  /-- Patterns that must all match. -/
  patterns : List Pattern
  /-- Terms that are looked for approximately. -/
  fuzzy : List Text
deriving Repr

namespace Query

def empty : Query := ⟨[], [], [], [], []⟩

/-- Why a text is no query. -/
inductive Error where
  | token (e : TokenError)
  /-- The pattern that begins at `position` is none. -/
  | pattern (source : Text) (position : Nat) (defect : Pattern.Defect)
deriving Repr, DecidableEq

/-- Where the token that is refused begins. -/
def Error.position : Error → Nat
  | .token e => e.position
  | .pattern _ position _ => position

def Error.message : Error → String
  | .token e => e.message
  | .pattern source position defect =>
    "Invalid regex `" ++ String.ofList source ++ s!"` at position {position}: "
      ++ defect.message source

/-- How reading a query fails: the query is refused, or a pattern in it exceeds a limit. -/
inductive Failure where
  | refused (e : Error)
  | overrun (o : Pattern.Overrun)
deriving Repr, DecidableEq

/-- The pattern of a token, if the token asks for one. -/
def readPattern (host : Pattern.Host) (t : Token) : Except Failure (List Pattern) :=
  match t.kind with
  | .pattern =>
    match Pattern.read t.value host with
    | .ok p => .ok [p]
    | .error (.defect d) => .error (.refused (.pattern t.value t.position d))
    | .error (.overrun o) => .error (.overrun o)
  | _ => .ok []

/-- The values of the tokens of one kind, in order. -/
def valuesOf (kind : Kind) (tokens : List Token) : List Text :=
  (tokens.filter (·.kind = kind)).map (·.value)

/-- The query that tokens make up.  The first pattern that cannot be read decides how it
fails. -/
def ofTokens (host : Pattern.Host) (full : Text) (tokens : List Token) : Except Failure Query := do
  let patterns ← tokens.mapM (readPattern host)
  .ok { full := full
        required := valuesOf .required tokens
        excluded := valuesOf .excluded tokens
        patterns := patterns.flatten
        fuzzy := valuesOf .fuzzy tokens }

def parse (raw : Text) (host : Pattern.Host := {}) : Except Failure Query :=
  match tokenize raw with
  | .ok tokens => ofTokens host raw tokens
  | .error e => .error (.refused (.token e))

def isEmpty (q : Query) : Bool :=
  q.required.isEmpty && q.excluded.isEmpty && q.patterns.isEmpty && q.fuzzy.isEmpty

/-- Whether a text has all that must occur or match, and nothing that must not. -/
def admits (q : Query) (text : Text) : Bool :=
  q.patterns.all (·.matchesIn text)
    && q.required.all (Text.hasInfix · text)
    && !q.excluded.any (Text.hasInfix · text)

/-- What the query was made from; two queries are the same if they agree in this. -/
def sources (q : Query) : Text × List Text × List Text × List Text × List Text :=
  (q.full, q.required, q.excluded, q.patterns.map (·.source), q.fuzzy)

/-- Whether two queries are made from the same texts. -/
def same (a b : Query) : Bool := a.sources = b.sources

def describe (q : Query) : String :=
  let count (label : String) (n : Nat) : List String := if n = 0 then [] else [s!"{label}: {n}"]
  " | ".intercalate <|
    ("Query: '" ++ String.ofList q.full ++ "'") :: (count "Musts" q.required.length
      ++ count "Nones" q.excluded.length ++ count "Regexes" q.patterns.length
      ++ count "Fuzzy" q.fuzzy.length)

end Query

end OutlineSearch
