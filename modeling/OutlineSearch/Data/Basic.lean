import OutlineSearch.Calendar.Date
import OutlineSearch.Number.Binary64
import OutlineSearch.Text.Basic

/-!
# Data

Values as settings files and callers give them, before anything is known about their
shape.
-/

namespace OutlineSearch

/-- A value of any shape. -/
inductive Data where
  | null
  | bool (value : Bool)
  | int (value : Int)
  | float (value : Binary64)
  | text (value : Text)
  | list (items : List Data)
  /-- Pairs of key and value, in order; no two keys are the same. -/
  | map (entries : List (Data × Data))
  | date (value : Date)
  /-- A moment, with the minutes by which its clock is ahead of universal time. -/
  | moment (value : Moment) (offset : Option Int)
  | bytes (value : List UInt8)
  | pair (first second : Data)
  | members (items : List Data)
deriving Repr

instance : Inhabited Data := ⟨.null⟩

namespace Data

def ofString (s : String) : Data := .text s.toList

def typeName : Data → String
  | null => "NoneType"
  | bool _ => "bool"
  | int _ => "int"
  | float _ => "float"
  | text _ => "str"
  | list _ => "list"
  | map _ => "dict"
  | date _ => "date"
  | moment .. => "datetime"
  | bytes _ => "bytes"
  | pair .. => "tuple"
  | members _ => "set"

/-- The number that a value is; the truth values are one and zero. -/
def number? : Data → Option Binary64
  | bool b => some (Binary64.ofNat (if b then 1 else 0))
  | int n => some (Binary64.ofInt n)
  | float x => some x
  | _ => none

/-- The integer that a value is, the truth values being one and zero. -/
def integer? : Data → Option Int
  | bool b => some (if b then 1 else 0)
  | int n => some n
  | float x => x.toInt?
  | _ => none

/-- Whether two values are one key of a map.  Numbers are one key if they are equal, of
whatever type they are, and so is what is not a number; moments whose clocks are known are one
key if they are the same in universal time. -/
def sameKey : Data → Data → Bool
  | null, null => true
  | text a, text b => a = b
  | date a, date b => a = b
  | moment a none, moment b none => a = b
  | moment a (some ahead), moment b (some ahead') => a.microsAt ahead = b.microsAt ahead'
  | float .nan, float .nan => true
  | bytes a, bytes b => a = b
  | pair a b, pair c d => sameKey a c && sameKey b d
  | a, b =>
    match a.integer?, b.integer? with
    | some m, some n => m = n
    | none, none =>
      match a.number?, b.number? with
      | some x, some y => x.eq y
      | _, _ => false
    | _, _ => false

/-- Puts an entry into a map: a key that is there keeps its place and gets the new value. -/
def put (key value : Data) : List (Data × Data) → List (Data × Data)
  | [] => [(key, value)]
  | (k, v) :: rest => if sameKey k key then (k, value) :: rest else (k, v) :: put key value rest

/-- The map of entries in order, the last value of a repeated key counting. -/
def mapOf (entries : List (Data × Data)) : Data :=
  .map (entries.foldl (fun found (k, v) => put k v found) [])

def lookup? (name : String) (entries : List (Data × Data)) : Option Data :=
  entries.findSome? fun (k, v) => if sameKey k (ofString name) then some v else none

end Data

end OutlineSearch
