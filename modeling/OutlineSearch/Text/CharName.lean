import OutlineSearch.Text.CharName.Table
import OutlineSearch.Text.Letter
import OutlineSearch.Text.Quoted

/-!
# Characters by name

Ideographs, variation selectors and the syllables of Hangul have names that tell their code points;
the names of other characters are listed.  Case is disregarded but for unified ideographs and
syllables.  The list is not complete, so a reader of patterns takes the names from the machine that
it runs on.
-/

namespace OutlineSearch.Text

/-- What stands behind a text at the beginning of another one. -/
def behind? (front name : Text) : Option Text :=
  if front.isPrefixOf name then some (name.drop front.length) else none

/-! ## Ideographs -/

/-- The number that capital hexadecimal digits denote. -/
def hexNumber? (digits : Text) : Option Nat :=
  digits.foldlM (fun n c => ("0123456789ABCDEF".toList.idxOf? c).map (16 * n + ·)) 0

/-- The first and the last code point in each run of unified ideographs. -/
def unifiedRuns : List (Nat × Nat) :=
  [(0x3400, 0x4DBF), (0x4E00, 0x9FFF), (0x20000, 0x2A6DF), (0x2A700, 0x2B738), (0x2B740, 0x2B81D),
   (0x2B820, 0x2CEA1), (0x2CEB0, 0x2EBE0), (0x30000, 0x3134A)]

/-- Other characters that are named for their code points: what stands in front of the number, and
the runs of these characters. -/
def numberedRuns : List (String × List (Nat × Nat)) :=
  [("CJK COMPATIBILITY IDEOGRAPH-", [(0xF900, 0xFA6D), (0xFA70, 0xFAD9), (0x2F800, 0x2FA1D)]),
   ("KHITAN SMALL SCRIPT CHARACTER-", [(0x18B00, 0x18CD5)]),
   ("NUSHU CHARACTER-", [(0x1B170, 0x1B2FB)])]

def isIn (runs : List (Nat × Nat)) (code : Nat) : Bool :=
  runs.any fun (first, last) => first ≤ code && code ≤ last

/-- The unified ideograph with a name, whose number has four or five digits. -/
def unifiedCode? (name : Text) : Option Nat := do
  let digits ← behind? "CJK UNIFIED IDEOGRAPH-".toList name
  let code ← hexNumber? digits
  if (digits.length = 4 || digits.length = 5) && isIn unifiedRuns code then some code else none

/-- The character that is named for its code point, whose number has no needless zeros. -/
def numberedCode? (name : Text) : Option Nat :=
  numberedRuns.findSome? fun (front, runs) => do
    let digits ← behind? front.toList name
    let code ← hexNumber? digits
    if digits.length = (hex 4 code).length && isIn runs code then some code else none

/-- The variation selector with a name, which ends with its number. -/
def selectorCode? (name : Text) : Option Nat := do
  let digits ← behind? "VARIATION SELECTOR-".toList name
  let number := digitsValue digits
  if digits ≠ ofNat number || number = 0 || 256 < number then none
  else some (if number ≤ 16 then 0xFDFF + number else 0xE00EF + number)

/-! ## Syllables -/

def initialSounds : List String :=
  ["G", "GG", "N", "D", "DD", "R", "M", "B", "BB", "S", "SS", "", "J", "JJ", "C", "K", "T", "P",
   "H"]

def middleSounds : List String :=
  ["A", "AE", "YA", "YAE", "EO", "E", "YEO", "YE", "O", "WA", "WAE", "OE", "YO", "U", "WEO", "WE",
   "WI", "YU", "EU", "YI", "I"]

def finalSounds : List String :=
  ["", "G", "GG", "GS", "N", "NJ", "NH", "D", "L", "LG", "LM", "LB", "LS", "LT", "LP", "LH", "M",
   "B", "BS", "S", "SS", "NG", "J", "C", "K", "T", "P", "H"]

/-- The position of the longest sound that a name begins with, and what is left of the name. -/
def takeSound? (sounds : List String) (name : Text) : Option (Nat × Text) :=
  let found := sounds.zipIdx.filterMap fun (sound, position) =>
    (behind? sound.toList name).map fun rest => (position, rest)
  found.minOn? fun (_, rest) => rest.length

def syllableCode? (name : Text) : Option Nat := do
  let sounds ← behind? "HANGUL SYLLABLE ".toList name
  let (i, rest) ← takeSound? initialSounds sounds
  let (m, rest) ← takeSound? middleSounds rest
  let (f, rest) ← takeSound? finalSounds rest
  if rest.isEmpty then some (0xAC00 + (i * 21 + m) * 28 + f) else none

/-! ## All names -/

/-- The code point of a name in a run of consecutive characters. -/
def codeIn? (name : Text) (start : Nat) (names : List String) : Option Nat :=
  ((names.flatMap fun line => (splitOnChar ';' line.toList).dropLast).idxOf? name).map (start + ·)

/-- The code point of a name in capital letters that is listed. -/
def listedCode? (name : Text) : Option Nat :=
  if name.isEmpty then none
  else
    ((aliasNames.find? fun entry => entry.1.toList == name).map (·.2))
      <|> nameRuns.findSome? fun (start, names) => codeIn? name start names

/-- The character with a Unicode name, if it is one of those with a known name. -/
def charNamed? (name : Text) : Option Char :=
  let capitals := name.map Char.toUpper
  (syllableCode? name <|> unifiedCode? name <|> numberedCode? capitals
    <|> selectorCode? capitals <|> listedCode? capitals).map Char.ofNat

end OutlineSearch.Text
