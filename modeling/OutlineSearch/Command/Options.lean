import OutlineSearch.Command.Word
import OutlineSearch.Text.Blank
import OutlineSearch.Text.Numeral
import OutlineSearch.Text.Quoted

/-!
# Options

The options that the words of a command line amount to.  The words are first told apart, all
of them, and then taken one after the other.
-/

namespace OutlineSearch.Command

/-- What a command line asks for. -/
structure Options where
  query : Text := []
  path : Text := ['.']
  config : Option Text := none
  noOrg : Bool := false
  noMarkdown : Bool := false
  orgExtensions : Option (List Text) := none
  markdownExtensions : Option (List Text) := none
  skippedFolders : Option (List Text) := none
  searchFilename : Bool := false
  count : Option Nat := none
  noColor : Bool := false
  noHeadings : Bool := false
  noLineNumbers : Bool := false
  separator : Option Text := none
  nullSeparator : Bool := false
  tagged : List Text := []
  properties : List (Text × Text) := []
  todo : List Text := []
  priority : List Text := []
  priorityBelow : Option Text := none
  priorityAbove : Option Text := none
  scheduledAt : Option Text := none
  deadlineAt : Option Text := none
  workers : Option Nat := none
  debug : Bool := false
deriving Repr, DecidableEq

/-- What is wrong with a value of a flag, or with the flag itself. -/
inductive Fault where
  | valueMissing
  | valueIgnored (value : Text)
  | notNonNegative (value : Text)
  | notPositive (value : Text)
  | negative (value : Text)
  | zeroOrLess (value : Text)
  | notProperty (value : Text)
  | conflict (other : Flag)
deriving Repr, DecidableEq

def Fault.message : Fault → Text
  | valueMissing => "expected one argument".toList
  | valueIgnored value => "ignored explicit argument ".toList ++ value.quoted
  | notNonNegative value => "invalid _non_negative_int value: ".toList ++ value.quoted
  | notPositive value => "invalid _positive_int value: ".toList ++ value.quoted
  | negative value => "must not be negative: ".toList ++ value
  | zeroOrLess value => "must be positive: ".toList ++ value
  | notProperty value => "expected KEY=VALUE, got ".toList ++ value.quoted
  | conflict other => "not allowed with argument ".toList ++ other.name

/-- Why a command line asks for nothing that can be done. -/
inductive Misuse where
  | ambiguous (ambiguity : Word.Ambiguity)
  | fault (flag : Flag) (fault : Fault)
  | queryMissing
  | unrecognized (words : List Text)
deriving Repr, DecidableEq

def Misuse.message : Misuse → Text
  | ambiguous a =>
    "ambiguous option: ".toList ++ a.word ++ " could match ".toList
      ++ Text.join ", ".toList a.spellings
  | fault flag cause => "argument ".toList ++ flag.name ++ ": ".toList ++ cause.message
  | queryMissing => "the following arguments are required: query".toList
  | unrecognized words => "unrecognized arguments: ".toList ++ Text.join [' '] words

/-- Why there is no search. -/
inductive Stop where
  | misuse (misuse : Misuse)
  | version
  | help
deriving Repr, DecidableEq

namespace Stop

def ofFault {α : Type} (f : Flag) (fault : Fault) : Except Stop α :=
  .error (.misuse (.fault f fault))

end Stop

/-! ## Values -/

def readProperty? (value : Text) : Option (Text × Text) :=
  match Word.splitValue value with
  | (key, some v) => if key.isAllBlank then none else some (key.trim, v.trim)
  | _ => none

/-- A number that is not negative. -/
def readNonNegative (value : Text) : Except Fault Nat :=
  match value.readInt? with
  | none => .error (.notNonNegative value)
  | some n => if n < 0 then .error (.negative value) else .ok n.toNat

/-- A number above zero. -/
def readPositive (value : Text) : Except Fault Nat :=
  match value.readInt? with
  | none => .error (.notPositive value)
  | some n => if n ≤ 0 then .error (.zeroOrLess value) else .ok n.toNat

namespace Options

/-- A list with one more text, which may be the first. -/
def more (value : Text) (list : Option (List Text)) : Option (List Text) :=
  some (list.getD [] ++ [value])

def setValue (f : Flag) (value : Text) (o : Options) : Except Fault Options :=
  match f with
  | .path => .ok { o with path := value }
  | .config => .ok { o with config := some value }
  | .orgExtension => .ok { o with orgExtensions := more value o.orgExtensions }
  | .markdownExtension => .ok { o with markdownExtensions := more value o.markdownExtensions }
  | .skippedFolder => .ok { o with skippedFolders := more value o.skippedFolders }
  | .count => (fun n => { o with count := some n }) <$> readNonNegative value
  | .separator => .ok { o with separator := some value }
  | .tagged => .ok { o with tagged := o.tagged ++ [value] }
  | .property =>
    match readProperty? value with
    | some p => .ok { o with properties := o.properties ++ [p] }
    | none => .error (.notProperty value)
  | .todo => .ok { o with todo := o.todo ++ [value] }
  | .priority => .ok { o with priority := o.priority ++ [value] }
  | .priorityBelow => .ok { o with priorityBelow := some value }
  | .priorityAbove => .ok { o with priorityAbove := some value }
  | .scheduledAt =>
    if o.deadlineAt.isSome then .error (.conflict .deadlineAt)
    else .ok { o with scheduledAt := some value }
  | .deadlineAt =>
    if o.scheduledAt.isSome then .error (.conflict .scheduledAt)
    else .ok { o with deadlineAt := some value }
  | .workers => (fun n => { o with workers := some n }) <$> readPositive value
  | _ => .ok o

/-- Takes a flag that stands alone. -/
def setSwitch (f : Flag) (o : Options) : Except Stop Options :=
  match f with
  | .help => .error .help
  | .version => .error .version
  | .noOrg => .ok { o with noOrg := true }
  | .noMarkdown => .ok { o with noMarkdown := true }
  | .searchFilename => .ok { o with searchFilename := true }
  | .noColor => .ok { o with noColor := true }
  | .noHeadings => .ok { o with noHeadings := true }
  | .noLineNumbers => .ok { o with noLineNumbers := true }
  | .null => .ok { o with nullSeparator := true }
  | .debug => .ok { o with debug := true }
  | _ => .ok o

def take (f : Flag) (value : Text) (o : Options) : Except Stop Options :=
  match o.setValue f value with
  | .ok o => .ok o
  | .error fault => Stop.ofFault f fault

/-- What comes of letters that are written behind a flag of one letter that stands alone.
Such a flag asks for help, and the help is given unless one of the letters is a flag that is
used wrongly; a letter that is no flag does no harm.  `following` tells whether a plain word
comes next. -/
def chainStop (before : Flag) (following : Bool) : Text → Stop
  | [] => .help
  | c :: rest =>
    if c = '-' then .misuse (.fault before (.valueIgnored (c :: rest)))
    else match Flag.ofSpelling? ['-', c] with
      | none => .help
      | some f =>
        if f.isSwitch then
          match rest with
          | '=' :: value => .misuse (.fault f (.valueIgnored value))
          | rest => chainStop f following rest
        else if rest.isEmpty && !following then .misuse (.fault f .valueMissing)
        else .help

/-- Whether the first of several words is a plain one. -/
def startsPlain : List Word → Bool
  | .plain _ :: _ => true
  | _ => false

/-- Takes words one after the other.  `query` is the query if it has been found; the result
ends with the words that no one has asked for. -/
def takeAll (o : Options) (query : Option Text) (extra : List Text) :
    List Word → Except Stop (Options × Option Text × List Text)
  | [] => .ok (o, query, extra)
  | .plain t :: rest =>
    match query with
    | some _ => takeAll o query (extra ++ [t]) rest
    | none =>
      match rest with
      | .separator :: rest => takeAll o (some t) extra rest
      | rest => takeAll o (some t) extra rest
  | .separator :: rest =>
    match query, rest with
    | none, .plain t :: rest => takeAll o (some t) extra rest
    | query, rest => takeAll o query (extra ++ [Word.separatorText]) rest
  | .unknown t :: rest => takeAll o query (extra ++ [t]) rest
  | .short f tail :: rest =>
    if f.isSwitch then .error (chainStop f (startsPlain rest) tail)
    else do
      let o ← o.take f tail
      takeAll o query extra rest
  | .flag f _ value :: rest =>
    if f.isSwitch then
      match value with
      | some value => Stop.ofFault f (.valueIgnored value)
      | none => do
        let o ← o.setSwitch f
        takeAll o query extra rest
    else
      match value, rest with
      | some value, rest => do
        let o ← o.take f value
        takeAll o query extra rest
      | none, .plain value :: rest => do
        let o ← o.take f value
        takeAll o query extra rest
      | none, _ => Stop.ofFault f .valueMissing

def ofWords (words : List Text) : Except Stop Options := do
  let words ← (Word.ofTexts words).mapError fun a => .misuse (.ambiguous a)
  let (o, query, extra) ← takeAll {} none [] words
  match query with
  | none => .error (.misuse .queryMissing)
  | some query =>
    if extra.isEmpty then .ok { o with query := query }
    else .error (.misuse (.unrecognized extra))

end Options

end OutlineSearch.Command
