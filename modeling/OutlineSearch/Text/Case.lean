import OutlineSearch.Text.Basic
import OutlineSearch.Text.Case.Table

/-!
# Letter case

Upper and lower case of texts by the full Unicode mappings: a character may become
several, and a capital sigma at the end of a word becomes a final sigma.  Comparison
without regard to case maps one character to one.
-/

namespace OutlineSearch.Text

def isUpperChar (c : Char) : Bool :=
  if c.toNat < 128 then c.isUpper else inRuns upperRuns c.toNat

def isLowerChar (c : Char) : Bool :=
  if c.toNat < 128 then c.isLower else inRuns lowerRuns c.toNat

def isTitleChar (c : Char) : Bool := inRanges titleRanges c.toNat

/-- Whether a text holds an upper-case character and none of lower or title case. -/
def isUpper (text : Text) : Bool :=
  text.any isUpperChar && !text.any fun c => isLowerChar c || isTitleChar c

/-- The upper case of one character, which may be several characters. -/
def upperOfChar (c : Char) : Text :=
  if c.toNat < 128 then [c.toUpper]
  else match toUpperExpansions.lookup c.toNat with
    | some codes => codes.map Char.ofNat
    | none => [Char.ofNat ((shiftIn? toUpperRuns c.toNat).getD c.toNat)]

def upper (text : Text) : Text := text.flatMap upperOfChar

/-- The lower case of one character, taken alone and as one character. -/
def lowerChar (c : Char) : Char :=
  if c.toNat < 128 then c.toLower
  else Char.ofNat ((shiftIn? toLowerRuns c.toNat).getD c.toNat)

/-- Whether a character is cased and casing rules do not skip it. -/
def isCased (c : Char) : Bool :=
  if c.toNat < 128 then c.isAlpha else inRanges casedRanges c.toNat

/-- Whether casing rules skip a character when they look for a neighbouring letter. -/
def isCaseIgnorable (c : Char) : Bool :=
  if c.toNat < 128 then c == '\'' || c == '.' || c == ':' || c == '^' || c.toNat == 96
  else inRanges caseIgnorableRanges c.toNat

/-- Whether the first character that casing rules do not skip is cased. -/
def startsCased (text : Text) : Bool :=
  ((text.find? fun c => !isCaseIgnorable c).map isCased).getD false

/-- The lower case of the characters in `text`, where `before` holds those already
passed, nearest first. -/
def lowerAux (before : Text) : Text → Text
  | [] => []
  | c :: rest =>
    let image : Text :=
      if c = 'Σ' then [if startsCased before && !startsCased rest then 'ς' else 'σ']
      else if c = 'İ' then ['i', Char.ofNat 0x307]
      else [lowerChar c]
    image ++ lowerAux (c :: before) rest

def lower (text : Text) : Text := lowerAux [] text

/-- The lower-case characters that count as the same letter as `c`, itself first. -/
def siblings (c : Char) : List Char :=
  match caseSiblings.find? (·.contains c.toNat) with
  | some codes => c :: (codes.map Char.ofNat).filter (· ≠ c)
  | none => [c]

/-- Every character that equals `c` when case is disregarded. -/
def caseVariants (c : Char) : List Char :=
  (siblings (lowerChar c)).flatMap fun s =>
    s :: (if s.isLower && s.toNat < 128 then [s.toUpper] else [])
      ++ (shiftedFrom toLowerRuns s.toNat).map Char.ofNat

end OutlineSearch.Text
