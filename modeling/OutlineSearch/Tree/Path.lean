import OutlineSearch.Text.Basic

/-!
# Paths

A path is a sequence of names, absolute or not.  Empty names and single dots mean nothing
and are dropped when a path is read; double dots are kept, because what they mean depends
on links.
-/

namespace OutlineSearch

structure Path where
  /-- The slashes in front of an absolute path; exactly two of them are kept apart. -/
  root : Text
  names : List Text
deriving Repr, DecidableEq

namespace Path

/-- Whether a piece between slashes names something. -/
def isName (piece : Text) : Bool := !piece.isEmpty && piece != ['.']

/-- The slashes that a path begins with, brought down to one or two. -/
def rootOf (text : Text) : Text :=
  match (text.takeWhile (· == '/')).length with
  | 0 => []
  | 2 => ['/', '/']
  | _ => ['/']

def ofText (text : Text) : Path :=
  ⟨rootOf text, (Text.splitOnChar '/' text).filter isName⟩

/-- Writes a path; the empty one is a dot. -/
def toText (p : Path) : Text :=
  if p.root.isEmpty && p.names.isEmpty then ['.'] else p.root ++ Text.join ['/'] p.names

/-- The last name, empty if there is none. -/
def name (p : Path) : Text := p.names.getLast?.getD []

def child (p : Path) (name : Text) : Path := { p with names := p.names ++ [name] }

def parent (p : Path) : Path := { p with names := p.names.dropLast }

def isAbsolute (p : Path) : Bool := !p.root.isEmpty

/-- The extension of a name with its dot: what follows the last dot, unless the name begins
or ends with that dot. -/
def extensionOf (name : Text) : Text :=
  let reversed := name.reverse
  let tail := (reversed.takeWhile (· != '.')).reverse
  let before := (reversed.dropWhile (· != '.')).drop 1
  if before.isEmpty || tail.isEmpty then [] else '.' :: tail

def extension (p : Path) : Text := extensionOf p.name

end Path

end OutlineSearch
