import OutlineSearch.Data.Basic
import OutlineSearch.Number.Decimal
import OutlineSearch.Yaml.Style

/-!
# Writing YAML

Maps and lists are written as blocks, one entry or item a line, each level two spaces
further in; a list that is the value of a key is not indented.
-/

namespace OutlineSearch.Yaml

/-- A number with a point, in lower case. -/
def floatText (x : Binary64) : Text :=
  match x with
  | .nan => ".nan".toList
  | .infinite true => "-.inf".toList
  | .infinite false => ".inf".toList
  | x =>
    let t := x.toShortest
    if t.contains '.' || !t.contains 'e' then t
    else t.takeWhile (· != 'e') ++ ".0".toList ++ t.dropWhile (· != 'e')

/-- How a value is written that is no collection. -/
def scalarText (isKey : Bool) (indent column : Nat) : Data → Text
  | .null => "null".toList
  | .bool b => (if b then "true" else "false").toList
  | .int n => Text.ofInt n
  | .float x => floatText x
  | .text t => writeScalar isKey indent column t
  | .date d => d.iso
  | .moment m _ => m.iso
  | .bytes bytes => writeScalar isKey indent column (bytes.map fun b => Char.ofNat b.toNat)
  | _ => []

/-- The number of characters that a scalar key takes, with its tag. -/
def keyWidth (key : Data) : Nat := 5 + (scalarText true 0 0 key).length

/-- No simple key is as wide as this. -/
def maxKeyWidth : Nat := 128

/-- Whether a key can stand on one line with its value. -/
def isSimpleKey : Data → Bool
  | .text t => !t.isEmpty && !t.any isBreak && 5 + t.length < maxKeyWidth
  | .list items => items.isEmpty
  | .map entries => entries.isEmpty
  | .pair .. => false
  | .members items => items.isEmpty
  | key => keyWidth key < maxKeyWidth

/-- What stands in front of the first and of the following parts of a block: the first one
follows on the same line if the line has just been opened by a mark of a part outside. -/
def lead (isOpen : Bool) (indent column : Nat) : Text :=
  if isOpen then List.replicate (indent - column) ' '
  else '\n' :: List.replicate indent ' '

def keyText (indent : Nat) : Data → Text
  | .list _ => "[]".toList
  | .map _ => "\x7b\x7d".toList
  | .members _ => "[]".toList
  | key => scalarText true (indent + 2) indent key

mutual

/-- A value behind the mark that belongs to it, from a column on.  `indent` is the
indentation of the block that the value belongs to, and `isOpen` tells whether a block may
begin on the same line. -/
def valueText (inMap isOpen : Bool) (indent column : Nat) : Data → Text
  | .list [] => " []".toList
  | .list items =>
    let inner := if inMap && !isOpen then indent else indent + 2
    itemsText isOpen inner column items
  | .map [] => " \x7b\x7d".toList
  | .map entries => entriesText isOpen (indent + 2) column entries
  | .pair a b =>
    lead isOpen (indent + 2) column ++ '-' :: valueText false true (indent + 2) (indent + 3) a
      ++ lead false (indent + 2) 0 ++ '-' :: valueText false true (indent + 2) (indent + 3) b
  | .members items => itemsText isOpen (indent + 2) column items
  | d => ' ' :: scalarText false (indent + 2) (column + 1) d

def itemsText (isOpen : Bool) (indent column : Nat) : List Data → Text
  | [] => []
  | item :: rest =>
    lead isOpen indent column ++ '-' :: valueText false true indent (indent + 1) item
      ++ itemsText false indent 0 rest

def entriesText (isOpen : Bool) (indent column : Nat) : List (Data × Data) → Text
  | [] => []
  | (key, value) :: rest =>
    let entry :=
      if isSimpleKey key then
        let key := keyText indent key
        key ++ ':' :: valueText true false indent (indent + key.length + 1) value
      else
        '?' :: valueText true true indent (indent + 1) key
          ++ '\n' :: List.replicate indent ' '
          ++ ':' :: valueText true true indent (indent + 1) value
    lead isOpen indent column ++ entry ++ entriesText false indent 0 rest

end

/-- The text of entries as a document, without a line feed at its end. -/
def render (entries : List (Data × Data)) : Text := entriesText true 0 0 entries

end OutlineSearch.Yaml
