import OutlineSearch.Text.Identifier
import OutlineSearch.Text.Numeral
import OutlineSearch.Pattern.CharSet
import OutlineSearch.Pattern.Options
import OutlineSearch.Pattern.Width

/-!
# Reading a pattern

The tokens are read once from left to right.  What is open at a token is a stack of
frames, one for each parenthesis not yet closed and one for the pattern itself; a frame
holds the branches and the nodes read in it so far.
-/

namespace OutlineSearch.Pattern

variable (host : Host)

/-- What a parenthesis opens. -/
inductive Opening where
  /-- The pattern itself, which no parenthesis opens. -/
  | whole
  | capture (number : Nat)
  | group
  | atomic
  | ahead (negated : Bool)
  /-- A look behind; `outermost` when it does not stand inside another one. -/
  | behind (negated outermost : Bool)
  /-- A conditional; `yes` is its first branch once that is complete. -/
  | choice (number : Nat) (yes : Option Node)

/-- A parenthesis that is not yet closed. -/
structure Frame where
  opening : Opening
  /-- Where the parenthesis stands. -/
  start : Nat
  /-- The options in force inside. -/
  switches : Switches
  /-- The finished branches, the last one first. -/
  branches : List Node
  /-- The nodes of the current branch, the last one first. -/
  nodes : List Node

/-- What is known after some tokens. -/
structure State where
  /-- The innermost open frame. -/
  inner : Frame
  /-- The frames around it, from the inside out. -/
  outer : List Frame
  /-- How many captures have been opened. -/
  captures : Nat
  /-- The names of captures. -/
  names : List (Text × Nat)
  /-- The widths of the captures that are closed. -/
  widths : List (Nat × Width)
  /-- Inside a look behind: the number of captures when the outermost one was opened. -/
  behindFrom : Option Nat
  /-- Conditions on a capture number, with the places that named them, in order. -/
  conditions : List (Nat × Nat)
  /-- The options set for the whole pattern. -/
  whole : Switches

namespace Frame

/-- An open frame in which nothing has been read. -/
def fresh (opening : Opening) (start : Nat) (switches : Switches) : Frame :=
  ⟨opening, start, switches, [], []⟩

def push (f : Frame) (n : Node) : Frame := { f with nodes := n :: f.nodes }

def current (f : Frame) : Node := .ofList f.nodes.reverse

def body (f : Frame) : Node := .ofBranches (f.current :: f.branches).reverse

/-- How characters are compared under the options in force. -/
def comparison (f : Frame) : Comparison :=
  ⟨f.switches.contains .ignoreCase, f.switches.contains .ascii⟩

def codeNode (f : Frame) (value : Nat) : Node := .set false [.code value] f.comparison

end Frame

namespace State

def start : State :=
  ⟨.fresh .whole 0 [], [], 0, [], [], none, [], []⟩

def push (s : State) (n : Node) : State := { s with inner := s.inner.push n }

def enter (s : State) (opening : Opening) (start : Nat) (switches : Switches) : State :=
  { s with inner := .fresh opening start switches, outer := s.inner :: s.outer }

/-- Whether a capture is closed, so that its content can be referred to. -/
def isClosed (s : State) (number : Nat) : Bool := (s.widths.lookup number).isSome

/-- Inside a look behind only captures closed in front of it can be referred to. -/
def checkBehind (s : State) (number : Nat) (r : Rest) : Except Stop PUnit :=
  match s.behindFrom with
  | none => .ok ⟨⟩
  | some limit =>
    if !s.isClosed number then r.refuse .openGroup 0
    else if limit < number then r.refuse .groupOfSameLookBehind 0
    else .ok ⟨⟩

/-- Adds a reference to a capture whose number was written at `position`. -/
def pushAgain (s : State) (number : Nat) (r : Rest) : Except Stop State := do
  s.checkBehind number r
  .ok (s.push (.again number s.inner.comparison))

end State

/-- Characters that separate tokens where the verbose option is on. -/
def isVerboseBlank (c : Char) : Bool := Text.isAsciiSpace c

/-- Reads an escape and adds what it stands for. -/
def stepEscape (s : State) (t : Token) (r : Rest) : Except Stop (State × Rest) := do
  let f := s.inner
  let ascii := f.switches.contains .ascii
  let (escape, after) ← readEscape host t.char t.position r
  match escape with
  | .code value => .ok (s.push (f.codeNode value), after)
  | .category kind negated =>
    .ok (s.push (.set false [.category kind negated] f.comparison), after)
  | .textStart => .ok (s.push (.anchor .textStart), after)
  | .textEnd => .ok (s.push (.anchor .textEnd), after)
  | .wordEdge => .ok (s.push (.anchor (.wordEdge ascii)), after)
  | .wordInside => .ok (s.push (.anchor (.wordInside ascii)), after)
  | .again number =>
    if s.captures < number then after.refuseAt (.noSuchGroup number) (t.position + 1)
    else if !s.isClosed number then after.refuseAt .openGroup t.position
    else do
      let s ← s.pushAgain number after
      .ok (s, after)

/-- The bounds that braces give, and what follows the closing brace; `none` when the
braces give no bounds and stand for themselves. -/
def readBounds? (r : Rest) : Option (Text × Text × Rest) :=
  if r.startsWith '}' then none
  else
    let (least, after) := takeChars Char.isDigit r.tokens.length r
    let (most, after) :=
      if after.startsWith ',' then takeChars Char.isDigit after.tokens.length after.skip
      else (least, after)
    if after.startsWith '}' then some (least, most, after.skip) else none

/-- Rounds cannot be counted up to this number. -/
def roundsLimit : Nat := 4294967295

/-- The value of one bound, `none` for a bound left out. -/
def boundValue (digits : Text) (r : Rest) : Except Stop (Option Nat) :=
  if digits.isEmpty then .ok none
  else if Text.maxDigits < digits.length then r.overrun (.digits digits.length)
  else
    let value := numeralValue 10 digits
    if roundsLimit ≤ value then r.overrun .rounds else .ok (some value)

/-- The bounds of the repetition that `t` begins; `none` when `t` is a brace that stands
for itself. -/
def readRepeat (t : Token) (r : Rest) : Except Stop (Option (Nat × Option Nat × Rest)) :=
  if t.char = '?' then .ok (some (0, some 1, r))
  else if t.char = '*' then .ok (some (0, none, r))
  else if t.char = '+' then .ok (some (1, none, r))
  else match readBounds? r with
    | none => .ok none
    | some (least, most, after) => do
      let least ← boundValue least after
      let most ← boundValue most after
      match least, most with
      | some a, some b =>
        if b < a then after.refuseAt .emptyRepeatRange r.position
        else .ok (some (a, some b, after))
      | a, b => .ok (some (a.getD 0, b, after))

/-- How greedy a repetition is, by the character behind it. -/
def readGreed (r : Rest) : Greed × Rest :=
  if r.startsWith '?' then (.lazy, r.skip)
  else if r.startsWith '+' then (.possessive, r.skip)
  else (.greedy, r)

/-- Repeats the node read last. -/
def stepRepeat (s : State) (t : Token) (r : Rest) : Except Stop (State × Rest) := do
  match ← readRepeat t r with
  | none => .ok (s.push (s.inner.codeNode t.char.toNat), r)
  | some (least, most, after) =>
    match s.inner.nodes with
    | [] | .anchor _ :: _ => after.refuseAt .nothingToRepeat t.position
    | .rounds .. :: _ => after.refuseAt .multipleRepeat t.position
    | n :: earlier =>
      let (greed, after) := readGreed after
      .ok ({ s with inner := { s.inner with nodes := .rounds greed least most n :: earlier } },
        after)

/-- Opens a capture, which may have a name. -/
def enterCapture (s : State) (start : Nat) (name : Option Text) (r : Rest) :
    Except Stop (State × Rest) :=
  let number := s.captures + 1
  let s := { s with captures := number }
  let opened := s.enter (.capture number) start s.inner.switches
  match name with
  | none => .ok (opened, r)
  | some name =>
    match s.names.lookup name with
    | some earlier => r.refuse (.groupNameTaken name number earlier) (name.length + 1)
    | none => .ok ({ opened with names := (name, number) :: s.names }, r)

def readGroupName (terminator : Char) (r : Rest) : Except Stop (Text × Rest) := do
  let (name, after) ← readName "group name" terminator r
  if name.isIdentifier then .ok (name, after)
  else after.refuse (.badGroupName name) (name.length + 1)

/-- Reads what follows `(?P`: a named capture, or a reference to one. -/
def stepNamed (s : State) (start : Nat) (r : Rest) : Except Stop (State × Rest) :=
  if r.startsWith '<' then do
    let (name, after) ← readGroupName '>' r.skip
    enterCapture s start (some name) after
  else if r.startsWith '=' then do
    let (name, after) ← readGroupName ')' r.skip
    match s.names.lookup name with
    | none => after.refuse (.unknownGroupName name) (name.length + 1)
    | some number =>
      if !s.isClosed number then after.refuse .openGroup (name.length + 1)
      else do
        let s ← s.pushAgain number after
        .ok (s, after)
  else match r.tokens with
    | [] => r.refuse .unexpectedEnd 0
    | t :: _ => r.skip.refuse (.unknownExtension ('P' :: t.text)) (t.text.length + 2)

/-- Captures cannot have a number from here on. -/
def captureLimit : Nat := 1073741823

/-- The capture that a condition names: by name, or by number. -/
def readCondition (s : State) (r : Rest) : Except Stop (Nat × State × Rest) := do
  let (name, after) ← readName "group name" ')' r
  if name.isIdentifier then
    match s.names.lookup name with
    | none => after.refuse (.unknownGroupName name) (name.length + 1)
    | some number => .ok (number, s, after)
  else match name.readInt? with
    | some (.ofNat number) =>
      if number = 0 then after.refuse .badGroupNumber (name.length + 1)
      else if captureLimit ≤ number then after.refuse (.noSuchGroup number) (name.length + 1)
      else
        let place := after.position - name.length - 1
        let known := s.conditions.any (·.1 == number)
        let conditions := if known then s.conditions else s.conditions ++ [(number, place)]
        .ok (number, { s with conditions := conditions }, after)
    | _ => after.refuse (.badGroupName name) (name.length + 1)

def stepCondition (s : State) (start : Nat) (r : Rest) : Except Stop (State × Rest) := do
  let (number, s, after) ← readCondition s r
  s.checkBehind number after
  .ok (s.enter (.choice number none) start s.inner.switches, after)

def enterBehind (s : State) (start : Nat) (negated : Bool) : State :=
  let outermost := s.behindFrom.isNone
  let opened := s.enter (.behind negated outermost) start s.inner.switches
  if outermost then { opened with behindFrom := some s.captures } else opened

/-- Reads what follows `(?<`. -/
def stepBehind (s : State) (start : Nat) (r : Rest) : Except Stop (State × Rest) :=
  match r.tokens with
  | [] => r.refuse .unexpectedEnd 0
  | t :: _ =>
    if t.isPlain '=' then .ok (enterBehind s start false, r.skip)
    else if t.isPlain '!' then .ok (enterBehind s start true, r.skip)
    else r.skip.refuse (.unknownExtension ('<' :: t.text)) (t.text.length + 2)

/-- Reads options: they hold for the whole pattern or open a group of their own. -/
def stepOptions (s : State) (start : Nat) (r : Rest) : Except Stop (State × Rest) := do
  let (setting, after) ← readOptions r
  match setting with
  | .scoped added removed =>
    .ok (s.enter .group start (s.inner.switches.combine added removed), after)
  | .whole added =>
    let f := s.inner
    if !s.outer.isEmpty || !f.branches.isEmpty || !f.nodes.isEmpty then
      after.refuseAt .lateOptions start
    else
      .ok ({ s with whole := s.whole ++ added,
                    inner := { f with switches := f.switches ++ added } }, after)

/-- What follows a comment, if it ends. -/
def skipComment (r : Rest) : Option Rest :=
  (splitAtChar ')' r.tokens).2.map fun tokens => { r with tokens := tokens }

/-- Reads what follows `(?`, where the parenthesis stands at `start`. -/
def stepExtension (s : State) (start : Nat) (r : Rest) : Except Stop (State × Rest) :=
  match r.tokens with
  | [] => r.refuse .unexpectedEnd 0
  | t :: _ =>
    let after := r.skip
    let switches := s.inner.switches
    if t.isPlain 'P' then stepNamed s start after
    else if t.isPlain ':' then .ok (s.enter .group start switches, after)
    else if t.isPlain '#' then
      match skipComment after with
      | some after => .ok (s, after)
      | none => Rest.refuseAt ⟨[], r.stop⟩ .unterminatedComment start
    else if t.isPlain '=' then .ok (s.enter (.ahead false) start switches, after)
    else if t.isPlain '!' then .ok (s.enter (.ahead true) start switches, after)
    else if t.isPlain '<' then stepBehind s start after
    else if t.isPlain '(' then stepCondition s start after
    else if t.isPlain '>' then .ok (s.enter .atomic start switches, after)
    else if (optionLetter? t).isSome || t.isPlain '-' then stepOptions s start r
    else after.refuse (.unknownExtension t.text) (t.text.length + 1)

def stepBranch (s : State) (t : Token) (r : Rest) : Except Stop (State × Rest) :=
  let f := s.inner
  match f.opening with
  | .choice number none =>
    .ok ({ s with inner := { f with opening := .choice number (some f.current), nodes := [] } },
      r)
  | .choice _ (some _) => Rest.refuseAt ⟨t :: r.tokens, r.stop⟩ .tooManyBranches t.position
  | _ => .ok ({ s with inner := { f with branches := f.current :: f.branches, nodes := [] } }, r)

def Frame.close (f : Frame) (widths : List (Nat × Width)) : Node :=
  match f.opening with
  | .whole => f.body
  | .capture number => .capture number f.body
  | .group => .group f.body
  | .atomic => .atomic f.body
  | .ahead negated => .ahead negated f.body
  | .behind negated _ => .behind negated (f.body.width widths).capped f.body
  | .choice number none => .choice number f.current .empty
  | .choice number (some yes) => .choice number yes f.current

/-- Whether the options for the whole pattern ask for two alphabets. -/
def alphabetsClash (whole : Switches) : Bool :=
  whole.contains .ascii && whole.contains .unicode

def stepClose (s : State) (t : Token) (r : Rest) : Except Stop (State × Rest) :=
  match s.outer with
  | [] =>
    let here : Rest := ⟨t :: r.tokens, r.stop⟩
    if alphabetsClash s.whole then here.overrun .alphabets
    else here.refuseAt .unbalanced t.position
  | f :: outer =>
    let closed := { s with outer := outer, inner := f.push (s.inner.close s.widths) }
    match s.inner.opening with
    | .capture number =>
      .ok ({ closed with widths := (number, s.inner.body.width s.widths) :: s.widths }, r)
    | .behind _ true => .ok ({ closed with behindFrom := none }, r)
    | _ => .ok (closed, r)

/-- Skips the rest of a comment that a line feed ends. -/
def skipLine : List Token → List Token
  | [] => []
  | t :: rest => if t.isPlain '\n' then rest else skipLine rest

def step (s : State) (t : Token) (r : Rest) : Except Stop (State × Rest) :=
  let f := s.inner
  let verbose := f.switches.contains .verbose
  if t.escaped then stepEscape host s t r
  else if t.char = '|' then stepBranch s t r
  else if t.char = ')' then stepClose s t r
  else if verbose && isVerboseBlank t.char then .ok (s, r)
  else if verbose && t.char = '#' then .ok (s, { r with tokens := skipLine r.tokens })
  else if t.char = '[' then do
    let (negated, items, after) ← readSet host t.position r
    .ok (s.push (.set negated items f.comparison), after)
  else if t.char = '*' || t.char = '+' || t.char = '?' || t.char = '{' then stepRepeat s t r
  else if t.char = '.' then .ok (s.push (.any (f.switches.contains .dotAll)), r)
  else if t.char = '(' then
    if r.startsWith '?' then stepExtension s t.position r.skip
    else enterCapture s t.position none r
  else if t.char = '^' then
    .ok (s.push (.anchor (.lineStart (f.switches.contains .multiLine))), r)
  else if t.char = '$' then
    .ok (s.push (.anchor (.lineEnd (f.switches.contains .multiLine))), r)
  else .ok (s.push (f.codeNode t.char.toNat), r)

/-- Reads all tokens after the first `skip`, which belong to what has been read. -/
def readTokens (stop : Nat) (s : State) : Nat → List Token → Except Stop State
  | _, [] => .ok s
  | skip + 1, _ :: rest => readTokens stop s skip rest
  | 0, t :: rest => do
    let (s, after) ← step host s t ⟨rest, stop⟩
    readTokens stop s (rest.length - after.tokens.length) rest

/-- The first misfit of a node, from left to right. -/
def Node.misfit? (template : Bool) : Node → Option Misfit
  | .empty | .set .. | .any _ | .anchor _ | .again .. => none
  | .seq a b | .alt a b | .choice _ a b => (a.misfit? template).or (b.misfit? template)
  | .rounds greed _ _ body =>
    if template then some (.repeatInTemplate greed) else body.misfit? template
  | .capture _ body | .group body | .atomic body | .ahead _ body => body.misfit? template
  | .behind _ width body =>
    if roundsLimit < width.least then some .lookBehindTooLong
    else if width.least ≠ width.most then some .lookBehindVaries
    else body.misfit? template

/-- The checks that need the whole pattern. -/
def finish (s : State) (r : Rest) : Except Stop Node :=
  if !s.outer.isEmpty then r.refuseAt .unterminatedGroup s.inner.start
  else if alphabetsClash s.whole then r.overrun .alphabets
  else
    let unknown := s.conditions.find? fun (number, _) => s.captures < number
    match unknown with
    | some (number, place) => r.refuseAt (.noSuchGroup number) place
    | none =>
      let node := s.inner.body
      match node.misfit? (s.whole.contains .template) with
      | some misfit => .error ⟨.defect (.whole misfit), r.isEmpty⟩
      | none => .ok node

def readNode (tokens : List Token) (stop : Nat) : Except Stop Node := do
  let s ← readTokens host stop .start 0 tokens
  finish s ⟨[], stop⟩

/-- Reads a pattern whose groups the stack has room for.  A backslash that ends it is the first
mistake, unless an earlier one shows before the token in front of the backslash has been read. -/
def readShallow (source : Text) : Except Fault Pattern :=
  let outcome := readNode host (tokensFrom 0 source) source.length
  if hasDanglingEscape source then
    let dangling := Fault.defect (.here .escapeAtEnd (source.length - 1))
    match outcome with
    | .error stop => .error (if stop.exhausted then dangling else stop.fault)
    | .ok _ => .error dangling
  else match outcome with
    | .error stop => .error stop.fault
    | .ok node => .ok ⟨source, node⟩

def read (source : Text) (host : Host := {}) : Except Fault Pattern :=
  if host.exhausts source then .error (.overrun .depth) else readShallow host source

end OutlineSearch.Pattern
