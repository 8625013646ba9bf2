import OutlineSearch.Command.Flag
import OutlineSearch.Text.Letter

/-!
# Words of the command line

Every word is a flag, with or without a value of its own, or a plain word.  A flag may be
shortened as long as no other flag begins the same way; behind the word `--` all words are
plain.
-/

namespace OutlineSearch.Command

/-- What a word of the command line is. -/
inductive Word where
  | plain (text : Text)
  /-- The word `--`. -/
  | separator
  /-- A flag as it would be spelled in full, and the value behind an equals sign. -/
  | flag (flag : Flag) (spelling : Text) (value : Option Text)
  /-- A flag of one letter, and what follows at once in the same word. -/
  | short (flag : Flag) (tail : Text)
  /-- A word that looks like a flag and is none. -/
  | unknown (text : Text)
deriving Repr, DecidableEq

namespace Word

/-- The word that ends the flags. -/
def separatorText : Text := ['-', '-']

/-- Splits a word at its first equals sign. -/
def splitValue (word : Text) : Text × Option Text :=
  match word.dropWhile (· != '=') with
  | [] => (word, none)
  | _ :: value => (word.takeWhile (· != '='), some value)

/-- A long flag that a word may be short for. -/
def longReadings (word : Text) : List Word :=
  let (start, value) := splitValue word
  (Flag.table.filter fun (spelling, _) => start.isPrefixOf spelling).map
    fun (spelling, f) => .flag f spelling value

/-- A flag of one letter that a word may begin with. -/
def shortReadings (word : Text) : List Word :=
  ((Flag.ofSpelling? (word.take 2)).map fun f => Word.short f (word.drop 2)).toList

/-- The flags that a word may stand for if it spells none. -/
def readings (word : Text) : List Word :=
  if separatorText.isPrefixOf word then longReadings word else shortReadings word

/-- Whether a word is a negative number: digits behind a minus sign, possibly with a point. -/
def isNegativeNumber (word : Text) : Bool :=
  let body := if word.getLast? = some '\n' then word.dropLast else word
  match body with
  | '-' :: rest =>
    match rest.dropWhile Text.isDecimal with
    | '.' :: digits => Text.isDigits digits
    | behind => behind.isEmpty && !rest.isEmpty
  | _ => false

/-- A word that could stand for several flags. -/
structure Ambiguity where
  word : Text
  spellings : List Text
deriving Repr, DecidableEq

def spelling? : Word → Option Text
  | flag _ spelling _ => some spelling
  | _ => none

/-- What a word is that begins with a minus sign and is not only that sign. -/
def ofDashed (word : Text) : Except Ambiguity Word :=
  let (start, value) := splitValue word
  match Flag.ofSpelling? word, (if value.isSome then Flag.ofSpelling? start else none) with
  | some f, _ => .ok (.flag f word none)
  | none, some f => .ok (.flag f start value)
  | none, none =>
    match readings word with
    | [reading] => .ok reading
    | [] =>
      if isNegativeNumber word || word.contains ' ' then .ok (.plain word)
      else .ok (.unknown word)
    | several => .error ⟨word, several.filterMap spelling?⟩

def ofText (word : Text) : Except Ambiguity Word :=
  match word with
  | '-' :: _ :: _ => ofDashed word
  | _ => .ok (.plain word)

/-- What the words of a command line are. -/
def ofTexts : List Text → Except Ambiguity (List Word)
  | [] => .ok []
  | word :: rest =>
    if word = separatorText then .ok (.separator :: rest.map .plain)
    else do
      let w ← ofText word
      let ws ← ofTexts rest
      .ok (w :: ws)

end Word

end OutlineSearch.Command
