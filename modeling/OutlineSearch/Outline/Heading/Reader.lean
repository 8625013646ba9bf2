import OutlineSearch.Outline.Cursor
import OutlineSearch.Outline.Heading.Title
import OutlineSearch.Outline.Timestamp.Reader

/-!
# Headings with what follows them

The line behind a heading may hold a timestamp, and the lines behind that a drawer of
properties.  A cursor that stands on a heading is moved past them and no further.
-/

namespace OutlineSearch

namespace Property

/-- A line of a drawer that is no property; the text is given without surrounding blanks. -/
structure Error where
  text : Text
deriving Repr, DecidableEq

def Error.message (e : Error) : String :=
  "Malformed property line: " ++ String.ofList e.text.quoted

/-- Reads a property: a key between two colons and a value.  The key is kept as it is, the
value without blanks around it; the value may not go on behind a line feed. -/
def parse (line : Text) : Except Error (Text × Text) :=
  match line.trimLeft with
  | ':' :: rest =>
    let key := rest.takeWhile (· != ':')
    let value := Text.trim ((rest.dropWhile (· != ':')).drop 1)
    if key.isEmpty || key.length = rest.length || value.contains '\n' then .error ⟨line.trim⟩
    else .ok (key, value)
  | _ => .error ⟨line.trim⟩

/-- Sets a property: a key that is there keeps its place. -/
def put (key value : Text) : List (Text × Text) → List (Text × Text)
  | [] => [(key, value)]
  | (k, v) :: rest => if k = key then (k, value) :: rest else (k, v) :: put key value rest

/-- Whether a line begins with a mark in capitals, blanks and case disregarded. -/
def beginsWith (mark : String) (line : Text) : Bool :=
  mark.toList.isPrefixOf line.trimLeft.upper

def opensDrawer (line : Text) : Bool := beginsWith ":PROPERTIES:" line

def closesDrawer (line : Text) : Bool := beginsWith ":END:" line

end Property

namespace Cursor

/-- Reads the rest of a drawer.  It ends with the closing line, or before a line that is no
property, or with the document; `found` are the properties read so far.  Each line read
uses up one of `limit`. -/
def readDrawer (found : List (Text × Text)) : Nat → Cursor → List (Text × Text) × Cursor
  | 0, c => (found, c)
  | limit + 1, c =>
    match c.peek with
    | (none, c) => (found, c)
    | (some line, c) =>
      if Property.closesDrawer line then (found, c.advance.2)
      else match Property.parse line with
        | .error _ => (found, c)
        | .ok (key, value) => readDrawer (Property.put key value found) limit c.advance.2

/-- Reads the drawer that begins on the next line, if there is one. -/
def readProperties (c : Cursor) : List (Text × Text) × Cursor :=
  match c.peek with
  | (some line, c) =>
    if Property.opensDrawer line then
      let c := c.advance.2
      readDrawer [] (c.remaining + 1) c
    else ([], c)
  | (none, c) => ([], c)

/-- Reads the timestamp on the next line, if there is a labelled one.  The line is passed
even if its timestamp cannot be read. -/
def readTimestamp (c : Cursor) : Option Timestamp × Cursor :=
  match c.peek with
  | (some line, c) =>
    if Timestamp.isLabelled line then ((Timestamp.parse line).toOption, c.advance.2)
    else (none, c)
  | (none, c) => (none, c)

/-- Reads the heading on the current line, and the timestamp and the properties that follow
it.  On any other line the cursor stays where it is. -/
def readHeading (kind : OutlineKind) (c : Cursor) : Option Heading × Cursor :=
  match c.current with
  | none => (none, c)
  | some line =>
    match Heading.ofLine? kind c.number line with
    | none => (none, c)
    | some heading =>
      let (timestamp, c) := c.readTimestamp
      let (properties, c) := c.readProperties
      (some { heading with timestamp := timestamp, properties := properties }, c)

end Cursor

end OutlineSearch
