import OutlineSearch.Yaml.Tag
import OutlineSearch.Yaml.Token

/-!
# YAML nodes

Tokens are put together to nodes: scalars, sequences and mappings.  An alias is replaced by
the node that it refers to.  An alias inside of that node stands for it without what is in it,
so that nodes are finite.
-/

namespace OutlineSearch.Yaml

inductive Node where
  | scalar (tag : Tag) (text : Text)
  | sequence (tag : Tag) (items : List Node)
  | mapping (tag : Tag) (entries : List (Node × Node))
deriving Repr

namespace Node

instance : Inhabited Node := ⟨.scalar .null []⟩

/-- What a reader of nodes knows. -/
structure Composer where
  /-- The tokens that are to be read. -/
  tokens : List Token
  /-- The nodes that have a name; a node that is still being read is there without what is in
  it. -/
  anchors : List (Text × Node)
  /-- What the handles of tags stand for. -/
  handles : List (Text × Text)

/-- An error in the structure. -/
def refuse {α : Type} (reason : String) : Except Error α := .error (.malformed reason none)

section Tokens

-- What is wrong behind the tokens, if the text cannot be read to its end.  The tokens come in
-- while nodes are read, so this counts as soon as one more token is asked for.
variable (ending : Option Error)

/-- Asks for a token. -/
def demand : List Token → Except Error PUnit
  | _ :: _ => .ok ()
  | [] =>
    match ending with
    | some e => .error e
    | none => .ok ()

/-- An error in the structure about the first of the tokens. -/
def refuseAt {α : Type} (tokens : List Token) (reason : String) : Except Error α := do
  demand ending tokens
  refuse reason

/-- The node where there is nothing. -/
def nothing : Node := .scalar .null []

/-- The properties in front of a node. -/
structure Properties where
  anchor : Option Text
  tag : Option Text

namespace Composer

def skip (c : Composer) : Composer := { c with tokens := c.tokens.tail }

def isAt (ts : List Token) (c : Composer) : Bool := (c.tokens.head?.map ts.contains).getD false

/-- The name of a tag, whose handle stands for something. -/
def fullTag (c : Composer) : Option (Option Text × Text) → Except Error (Option Text)
  | none => .ok none
  | some (none, rest) => .ok (some rest)
  | some (some handle, rest) =>
    match c.handles.lookup handle with
    | some expansion => .ok (some (expansion ++ rest))
    | none => refuse "found an unknown handle of a tag"

/-- Takes the handle and the rest of a tag, if there is one. -/
def takeTag (c : Composer) : Option (Option Text × Text) × Composer :=
  match c.tokens with
  | .tag handle rest :: _ => (some (handle, rest), c.skip)
  | _ => (none, c)

/-- Takes an anchor, if there is one. -/
def takeAnchor (c : Composer) : Option Text × Composer :=
  match c.tokens with
  | .anchor name :: _ => (some name, c.skip)
  | _ => (none, c)

/-- Takes an anchor behind a tag. -/
def takeLateAnchor (c : Composer) : Except Error (Option Text × Composer) := do
  demand ending c.tokens
  .ok c.takeAnchor

/-- Takes the properties of a node, in either order. -/
def takeProperties (c : Composer) : Except Error (Properties × Composer) := do
  let (before, c) := c.takeAnchor
  let (tag, c) := c.takeTag
  let (anchor, c) ←
    if before.isNone && tag.isSome then c.takeLateAnchor ending else .ok (before, c)
  let name ← c.fullTag tag
  .ok (⟨anchor, name⟩, c)

/-- The node that begins with the first token, without what is in it. -/
def hollowNode (c : Composer) : Node :=
  if c.isAt [.flowMappingStart, .blockMappingStart] then .mapping .map [] else .sequence .seq []

/-- Notes that a node with a name begins. -/
def begin_ (p : Properties) (c : Composer) : Except Error Composer :=
  match p.anchor with
  | none => .ok c
  | some name =>
    if (c.anchors.lookup name).isSome then refuse "found a second anchor with the same name"
    else .ok { c with anchors := (name, c.hollowNode) :: c.anchors }

/-- Notes that a node with a name is complete. -/
def finish (p : Properties) (n : Node) (c : Composer) : Node × Composer :=
  match p.anchor with
  | none => (n, c)
  | some name => (n, { c with anchors := (name, n) :: c.anchors })

/-- The node that an alias refers to. -/
def resolve (name : Text) (c : Composer) : Except Error Node :=
  match c.anchors.lookup name with
  | some n => .ok n
  | none => refuse "found an unknown alias"

end Composer

/-- The tag of a node whose properties may leave it open. -/
def tagOr (default : Tag) : Option Text → Tag
  | none => default
  | some name => if name = ['!'] then default else Tag.ofName name

def scalarTag (tag : Option Text) (text : Text) (plain : Bool) : Tag :=
  match tag with
  | none => if plain then Tag.ofPlain text else .str
  | some name => if name = ['!'] then Tag.ofQuoted text else Tag.ofName name

open Composer

/-- Which tokens may begin a node. -/
structure Place where
  /-- Whether blocks may begin here. -/
  block : Bool
  /-- Whether the entries of a sequence may stand here without a block of their own. -/
  entries : Bool

mutual

/-- Reads a node.  Every call uses up one of `limit`, and no nesting of calls is deeper than
the tokens allow. -/
def read (place : Place) : Nat → Composer → Except Error (Node × Composer)
  | 0, _ => refuse "found too many tokens"
  | limit + 1, c =>
    match c.tokens with
    | .alias name :: _ => do
      let n ← c.resolve name
      .ok (n, c.skip)
    | _ => do
      let (p, c) ← c.takeProperties ending
      demand ending c.tokens
      let c ← c.begin_ p
      match c.tokens with
      | .scalar text plain :: _ =>
        .ok (c.skip.finish p (.scalar (scalarTag p.tag text plain) text))
      | .flowSequenceStart :: _ => do
        let (items, c) ← readFlowItems true limit c.skip
        .ok (c.finish p (.sequence (tagOr .seq p.tag) items))
      | .flowMappingStart :: _ => do
        let (entries, c) ← readFlowEntries true limit c.skip
        .ok (c.finish p (.mapping (tagOr .map p.tag) entries))
      | t :: _ =>
        if t = .entry && place.entries then do
          let (items, c) ← readLooseItems limit c
          .ok (c.finish p (.sequence (tagOr .seq p.tag) items))
        else if t = .blockSequenceStart && place.block then do
          let (items, c) ← readItems limit c.skip
          .ok (c.finish p (.sequence (tagOr .seq p.tag) items))
        else if t = .blockMappingStart && place.block then do
          let (entries, c) ← readEntries limit c.skip
          .ok (c.finish p (.mapping (tagOr .map p.tag) entries))
        else if p.anchor.isSome || p.tag.isSome then
          .ok (c.finish p (.scalar (scalarTag p.tag [] true) []))
        else refuse "expected a node"
      | [] =>
        if p.anchor.isSome || p.tag.isSome then
          .ok (c.finish p (.scalar (scalarTag p.tag [] true) []))
        else refuse "expected a node"

/-- Reads a node unless one of the tokens `stops` comes next; then there is nothing. -/
def readUnless (stops : List Token) (place : Place) :
    Nat → Composer → Except Error (Node × Composer)
  | 0, _ => refuse "found too many tokens"
  | limit + 1, c => if c.isAt stops then .ok (nothing, c) else read place limit c

def readItems : Nat → Composer → Except Error (List Node × Composer)
  | 0, _ => refuse "found too many tokens"
  | limit + 1, c =>
    match c.tokens with
    | .entry :: _ => do
      let (n, c) ← readUnless [.entry, .blockEnd] ⟨true, false⟩ limit c.skip
      let (items, c) ← readItems limit c
      .ok (n :: items, c)
    | .blockEnd :: _ => .ok ([], c.skip)
    | tokens => refuseAt ending tokens "expected the end of a sequence"

/-- Reads the items of a sequence that has no block of its own. -/
def readLooseItems : Nat → Composer → Except Error (List Node × Composer)
  | 0, _ => refuse "found too many tokens"
  | limit + 1, c =>
    match c.tokens with
    | .entry :: _ => do
      let (n, c) ← readUnless [.entry, .key, .value, .blockEnd] ⟨true, false⟩ limit c.skip
      let (items, c) ← readLooseItems limit c
      .ok (n :: items, c)
    | _ => .ok ([], c)

def readEntries : Nat → Composer → Except Error (List (Node × Node) × Composer)
  | 0, _ => refuse "found too many tokens"
  | limit + 1, c =>
    match c.tokens with
    | .key :: _ => do
      let stops : List Token := [.key, .value, .blockEnd]
      let (k, c) ← readUnless stops ⟨true, true⟩ limit c.skip
      let (v, c) ← match c.tokens with
        | .value :: _ => readUnless stops ⟨true, true⟩ limit c.skip
        | _ => .ok (nothing, c)
      let (entries, c) ← readEntries limit c
      .ok ((k, v) :: entries, c)
    | .blockEnd :: _ => .ok ([], c.skip)
    | tokens => refuseAt ending tokens "expected the end of a mapping"

/-- Reads the items of a sequence in brackets.  An item behind a question mark or with a
colon is a mapping of one entry. -/
def readFlowItems (first : Bool) : Nat → Composer → Except Error (List Node × Composer)
  | 0, _ => refuse "found too many tokens"
  | limit + 1, c =>
    if c.isAt [.flowSequenceEnd] then .ok ([], c.skip)
    else if !first && !c.isAt [.comma] then
      refuseAt ending c.tokens "expected a comma or a bracket"
    else
      let c := if first then c else c.skip
      match c.tokens with
      | .flowSequenceEnd :: _ => .ok ([], c.skip)
      | .key :: _ => do
        let (k, c) ← readUnless [.value, .comma, .flowSequenceEnd] ⟨false, false⟩ limit c.skip
        let (v, c) ← match c.tokens with
          | .value :: _ => readUnless [.comma, .flowSequenceEnd] ⟨false, false⟩ limit c.skip
          | _ => .ok (nothing, c)
        let (items, c) ← readFlowItems false limit c
        .ok (.mapping .map [(k, v)] :: items, c)
      | _ => do
        let (n, c) ← read ⟨false, false⟩ limit c
        let (items, c) ← readFlowItems false limit c
        .ok (n :: items, c)

def readFlowEntries (first : Bool) :
    Nat → Composer → Except Error (List (Node × Node) × Composer)
  | 0, _ => refuse "found too many tokens"
  | limit + 1, c =>
    if c.isAt [.flowMappingEnd] then .ok ([], c.skip)
    else if !first && !c.isAt [.comma] then
      refuseAt ending c.tokens "expected a comma or a brace"
    else
      let c := if first then c else c.skip
      match c.tokens with
      | .flowMappingEnd :: _ => .ok ([], c.skip)
      | .key :: _ => do
        let (k, c) ← readUnless [.value, .comma, .flowMappingEnd] ⟨false, false⟩ limit c.skip
        let (v, c) ← match c.tokens with
          | .value :: _ => readUnless [.comma, .flowMappingEnd] ⟨false, false⟩ limit c.skip
          | _ => .ok (nothing, c)
        let (entries, c) ← readFlowEntries false limit c
        .ok ((k, v) :: entries, c)
      | _ => do
        let (k, c) ← read ⟨false, false⟩ limit c
        let (entries, c) ← readFlowEntries false limit c
        .ok ((k, nothing) :: entries, c)

end

/-- The handles that need no declaration. -/
def commonHandles : List (Text × Text) := [(['!'], ['!']), (['!', '!'], Tag.base)]

/-- Reads the directives in front of a document and returns the handles they declare. -/
def readDirectives (versioned : Bool) (handles : List (Text × Text)) :
    List Token → Except Error (List (Text × Text) × List Token)
  | .directive d :: rest =>
    match d with
    | .version major =>
      if versioned then refuse "found a second version"
      else if major != 1 then refuse "found a version that is not known"
      else readDirectives true handles rest
    | .handle name expansion =>
      if (handles.lookup name).isSome then refuse "found a second declaration of a handle"
      else readDirectives versioned ((name, expansion) :: handles) rest
    | .other => readDirectives versioned handles rest
  | tokens => .ok (handles, tokens)

/-- Tokens without the marks for the end of a document in front of them. -/
def dropDocumentEnds : List Token → List Token
  | .documentEnd :: rest => dropDocumentEnds rest
  | tokens => tokens

/-- Makes sure that nothing follows a document. -/
def alone (n : Node) (c : Composer) : Except Error (Option Node) := do
  let tokens := dropDocumentEnds c.tokens
  let (_, rest) ← readDirectives false [] tokens
  demand ending rest
  if tokens.isEmpty then .ok (some n) else refuse "found a second document"

/-- Whether a token ends a document that has not begun. -/
def endsDocument : Token → Bool
  | .directive _ | .documentStart | .documentEnd => true
  | _ => false

/-- Reads the only document that tokens make up; `none` if there is none. -/
def ofTokens (tokens : List Token) : Except Error (Option Node) := do
  let limit := 3 * tokens.length + 3
  demand ending tokens
  match tokens with
  | [] => .ok none
  | .directive _ :: _ | .documentStart :: _ => do
    let (handles, rest) ← readDirectives false [] tokens
    match rest with
    | .documentStart :: rest =>
      let c : Composer := ⟨rest, [], handles ++ commonHandles⟩
      if (rest.head?.map endsDocument).getD true then alone ending nothing c
      else do
        let (n, c) ← read ending ⟨true, false⟩ limit c
        alone ending n c
    | _ => refuseAt ending rest "expected the beginning of a document"
  | _ => do
    let (n, c) ← read ending ⟨true, false⟩ limit ⟨tokens, [], commonHandles⟩
    alone ending n c

end Tokens

/-- Reads the only document of a text; `none` if there is none. -/
def ofText (text : Text) : Except Error (Option Node) :=
  match tokensOf text with
  | .ok tokens => ofTokens none tokens
  | .error stop => ofTokens (some stop.error) stop.tokens

end Node

end OutlineSearch.Yaml
