import OutlineSearch.Pattern.Escape
import OutlineSearch.Yaml.Source

/-!
# Scalars

The five ways to write a scalar: plain, between single or double quotes, and as a block
that keeps or folds its line breaks.  Every loop uses up characters; `limit` is a bound on
their number.
-/

namespace OutlineSearch.Yaml.Source

/-! ## Quoted scalars -/

/-- The character that an escape with one letter stands for. -/
def escaped? : Char → Option Nat
  | '0' => some 0
  | 'a' => some 7
  | 'b' => some 8
  | 't' => some 9
  | '\t' => some 9
  | 'n' => some 10
  | 'v' => some 11
  | 'f' => some 12
  | 'r' => some 13
  | 'e' => some 27
  | ' ' => some 32
  | '"' => some 34
  | '\\' => some 92
  | '/' => some 47
  | 'N' => some 0x85
  | '_' => some 0xA0
  | 'L' => some 0x2028
  | 'P' => some 0x2029
  | _ => none

/-- How many hexadecimal digits follow the letter of an escape. -/
def escapeDigits? : Char → Option Nat
  | 'x' => some 2
  | 'u' => some 4
  | 'U' => some 8
  | _ => none

/-- The character with a code. -/
def charOfCode (code : Nat) : Except Error Char :=
  if 0x7FFFFFFF < code then .error .codeTooLarge
  else if 0x10FFFF < code then .error (.badValue "chr() arg not in range(0x110000)")
  else .ok (Char.ofNat code)

/-- Takes the line breaks and the white space between lines of a quoted scalar. -/
def takeQuotedBreaks : Nat → Source → Except Error (Text × Source)
  | 0, s => .ok ([], s)
  | limit + 1, s =>
    if s.isSeparator then s.refuse "found a document separator inside of a quoted scalar"
    else
      let s := s.dropWhile isWhite
      match s.peek with
      | some c =>
        if isBreak c then do
          let (b, s) := s.takeBreak
          let (more, s) ← takeQuotedBreaks limit s
          .ok (b ++ more, s)
        else .ok ([], s)
      | none => .ok ([], s)

/-- Takes the escape behind a backslash. -/
def takeEscape (limit : Nat) (s : Source) : Except Error (Text × Source) :=
  match s.peek with
  | none => s.refuse "found an unfinished escape"
  | some c =>
    match escaped? c, escapeDigits? c with
    | some code, _ => .ok ([Char.ofNat code], s.next)
    | none, some count =>
      let digits := s.next.rest.take count
      if digits.length = count && digits.all Pattern.isHex then do
        let c ← charOfCode (Pattern.numeralValue 16 digits)
        .ok ([c], s.next.skip count)
      else s.refuse "expected hexadecimal digits"
    | none, none =>
      if isBreak c then takeQuotedBreaks limit s.takeBreak.2
      else s.refuse "found an unknown escape"

/-- Whether a character of a quoted scalar stands for itself wherever it is. -/
def isOrdinary (c : Char) : Bool :=
  !(c == '\'' || c == '"' || c == '\\' || isWhite c || isBreak c)

/-- Takes the part of a quoted scalar up to white space, a line break or the closing quote. -/
def takeQuotedWord (double : Bool) : Nat → Source → Except Error (Text × Source)
  | 0, s => .ok ([], s)
  | limit + 1, s =>
    match s.peek with
    | none => .ok ([], s)
    | some c =>
      if isOrdinary c then do
        let (more, s) ← takeQuotedWord double limit s.next
        .ok (c :: more, s)
      else if !double && c == '\'' && s.next.isAt '\'' then do
        let (more, s) ← takeQuotedWord double limit (s.skip 2)
        .ok ('\'' :: more, s)
      else if (double && c == '\'') || (!double && (c == '"' || c == '\\')) then do
        let (more, s) ← takeQuotedWord double limit s.next
        .ok (c :: more, s)
      else if double && c == '\\' then do
        let (read, s) ← takeEscape limit s.next
        let (more, s) ← takeQuotedWord double limit s
        .ok (read ++ more, s)
      else .ok ([], s)

/-- What a run of line breaks stands for: the first one is a space if it is a line feed and
no other follows. -/
def folded (first more : Text) : Text :=
  if first != ['\n'] then first ++ more
  else if more.isEmpty then [' ']
  else more

/-- Takes the white space and the line breaks between words of a quoted scalar. -/
def takeQuotedSpace (limit : Nat) (s : Source) : Except Error (Text × Source) :=
  let (white, s) := s.takeWhile isWhite
  match s.peek with
  | none => s.refuse "found the end of the text inside of a quoted scalar"
  | some c =>
    if isBreak c then do
      let (first, s) := s.takeBreak
      let (more, s) ← takeQuotedBreaks limit s
      .ok (folded first more, s)
    else .ok (white, s)

def takeQuotedRest (double : Bool) : Nat → Source → Except Error (Text × Source)
  | 0, s => s.refuse "found an unfinished quoted scalar"
  | limit + 1, s => do
    let (word, s) ← takeQuotedWord double (s.rest.length + 1) s
    if s.isAt (if double then '"' else '\'') then .ok (word, s.next)
    else
      let (space, s) ← takeQuotedSpace (s.rest.length + 1) s
      let (more, s) ← takeQuotedRest double limit s
      .ok (word ++ space ++ more, s)

/-- Takes a quoted scalar, which begins here with its quote. -/
def takeQuoted (double : Bool) (s : Source) : Except Error (Text × Source) :=
  takeQuotedRest double (s.rest.length + 1) s.next

/-! ## Plain scalars -/

/-- Takes a word of a plain scalar.  Inside of brackets some more characters end it. -/
def takePlainWord (inFlow : Bool) : Text → Text
  | [] => []
  | c :: rest =>
    let ends := endsWord (some c)
      || (c == ':' && (endsWord rest.head?
        || (inFlow && (rest.head?.map (",[]\x7b\x7d".toList.contains ·)).getD false)))
      || (inFlow && ",?[]\x7b\x7d".toList.contains c)
    if ends then [] else c :: takePlainWord inFlow rest

/-- Takes the empty lines between lines of a plain scalar; `none` if documents are separated
there. -/
def takePlainBreaks : Nat → Source → Option Text × Source
  | 0, s => (some [], s)
  | limit + 1, s =>
    match s.peek with
    | some c =>
      if c == ' ' then takePlainBreaks limit s.next
      else if isBreak c then
        let (b, s) := s.takeBreak
        if s.isSeparator then (none, s)
        else
          let (more, s) := takePlainBreaks limit s
          (more.map (b ++ ·), s)
      else (some [], s)
    | none => (some [], s)

/-- The space behind a word of a plain scalar. -/
structure PlainSpace where
  /-- What the space stands for; empty if the scalar cannot go on. -/
  text : Text
  /-- Whether a line has ended. -/
  brokeLine : Bool

/-- Takes the space behind a word of a plain scalar. -/
def takePlainSpace (s : Source) : PlainSpace × Source :=
  let (white, s) := s.takeWhile (· == ' ')
  match s.peek with
  | some c =>
    if isBreak c then
      let (first, s) := s.takeBreak
      if s.isSeparator then (⟨[], true⟩, s)
      else match takePlainBreaks (s.rest.length + 1) s with
        | (none, s) => (⟨[], true⟩, s)
        | (some more, s) => (⟨folded first more, true⟩, s)
    else (⟨white, false⟩, s)
  | none => (⟨white, false⟩, s)

/-- Takes a plain scalar whose lines after the first are indented by at least `indent`.  The
second part says whether the scalar ended behind a line break. -/
def takePlainFrom (inFlow : Bool) (indent : Nat) : Nat → Source → Text × Bool × Source
  | 0, s => ([], false, s)
  | limit + 1, s =>
    if s.isAt '#' then ([], false, s)
    else
      let word := takePlainWord inFlow s.rest
      if word.isEmpty then ([], false, s)
      else
        let (space, after) := (s.skip word.length).takePlainSpace
        if space.text.isEmpty || after.isAt '#' || (!inFlow && after.column < indent) then
          (word, space.brokeLine, after)
        else
          let (more, brokeLine, s) := takePlainFrom inFlow indent limit after
          if more.isEmpty then (word, space.brokeLine, s)
          else (word ++ space.text ++ more, brokeLine, s)

def takePlain (inFlow : Bool) (indent : Nat) (s : Source) : Text × Bool × Source :=
  takePlainFrom inFlow indent (s.rest.length + 1) s

/-! ## Block scalars -/

/-- What happens to the line breaks at the end of a block scalar. -/
inductive Chomping where
  | clip
  | strip
  | keep
deriving Repr, DecidableEq

/-- Takes a sign for the chomping of a block scalar. -/
def takeChomping (s : Source) : Option Chomping × Source :=
  match s.peek with
  | some '+' => (some .keep, s.next)
  | some '-' => (some .strip, s.next)
  | _ => (none, s)

/-- Takes a digit for the indentation of a block scalar. -/
def takeIncrement (s : Source) : Except Error (Option Nat × Source) :=
  match s.peek with
  | some c =>
    if c == '0' then s.refuse "expected an indentation of at least 1"
    else if c.isDigit then .ok (some (c.toNat - 48), s.next)
    else .ok (none, s)
  | none => .ok (none, s)

/-- Takes the signs behind the mark of a block scalar, in either order. -/
def takeIndicators (s : Source) : Except Error (Chomping × Option Nat × Source) := do
  let (before, s) := s.takeChomping
  let (increment, s) ← s.takeIncrement
  let (after, s) := match before, increment with
    | none, some _ => s.takeChomping
    | _, _ => (before, s)
  if endsItem s.peek then .ok (after.getD .clip, increment, s)
  else s.refuse "expected an indentation or a chomping sign"

/-- Takes the empty lines of a block scalar, lines indented by up to `indent` spaces. -/
def takeBlockBreaks (indent : Nat) : Nat → Source → Text × Source
  | 0, s => ([], s)
  | limit + 1, s =>
    let spaces := (s.rest.takeWhile (· == ' ')).length
    let s := s.skip (min spaces (indent - s.column))
    match s.peek with
    | some c =>
      if isBreak c then
        let (b, s) := s.takeBreak
        let (more, s) := takeBlockBreaks indent limit s
        (b ++ more, s)
      else ([], s)
    | none => ([], s)

/-- Takes the empty lines at the beginning of a block scalar and finds out the deepest
indentation among them and the line behind them. -/
def takeBlockStart : Nat → Nat → Source → Text × Nat × Source
  | 0, deepest, s => ([], deepest, s)
  | limit + 1, deepest, s =>
    match s.peek with
    | some c =>
      if c == ' ' then
        let s := s.next
        takeBlockStart limit (max deepest s.column) s
      else if isBreak c then
        let (b, s) := s.takeBreak
        let (more, deepest, s) := takeBlockStart limit deepest s
        (b ++ more, deepest, s)
      else ([], deepest, s)
    | none => ([], deepest, s)

/-- Takes the lines of a block scalar; `breaks` are the empty lines in front of the next one.
The result is the text, the last line break, and the empty lines behind it. -/
def takeBlockLines (fold : Bool) (indent : Nat) :
    Nat → Text → Source → Text × Text × Text × Source
  | 0, breaks, s => ([], [], breaks, s)
  | limit + 1, breaks, s =>
    match s.peek with
    | none => ([], [], breaks, s)
    | some c =>
      if s.column != indent then ([], [], breaks, s)
      else
        let (line, s) := s.takeWhile fun c => !isBreak c
        let (lineBreak, s) := s.takeBreak
        let (more, s) := takeBlockBreaks indent (s.rest.length + 1) s
        match s.peek with
        | some d =>
          if s.column = indent then
            let joint :=
              if fold && lineBreak == ['\n'] && !isWhite c && !isWhite d then
                if more.isEmpty then [' '] else []
              else lineBreak
            let (text, last, after, s) := takeBlockLines fold indent limit more s
            (breaks ++ line ++ joint ++ text, last, after, s)
          else (breaks ++ line, lineBreak, more, s)
        | none => (breaks ++ line, lineBreak, more, s)

/-- Takes a block scalar, which begins here with its mark; the collection around it is
indented by `outer`. -/
def takeBlock (fold : Bool) (outer : Int) (s : Source) : Except Error (Text × Source) := do
  let (chomping, increment, s) ← s.next.takeIndicators
  let s ← s.endLine
  let least := (max 1 (outer + 1)).toNat
  let limit := s.rest.length + 1
  let (breaks, indent, s) := match increment with
    | none =>
      let (breaks, deepest, s) := takeBlockStart limit 0 s
      (breaks, max least deepest, s)
    | some n =>
      let indent := least + n - 1
      let (breaks, s) := takeBlockBreaks indent limit s
      (breaks, indent, s)
  let (text, last, after, s) := takeBlockLines fold indent limit breaks s
  .ok (match chomping with
    | .strip => (text, s)
    | .clip => (text ++ last, s)
    | .keep => (text ++ last ++ after, s))

end OutlineSearch.Yaml.Source
