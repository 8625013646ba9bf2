import OutlineSearch.Settings.Basic
import OutlineSearch.Tree.Basic

/-!
# Walking a tree

The documents below a folder are found folder by folder: first the files of a folder, then
its subfolders, both in the order of their names.  Links to folders are not followed.
-/

namespace OutlineSearch

structure Document where
  path : Text
  kind : OutlineKind
deriving Repr, DecidableEq

/-- What was met on a walk. -/
structure Tally where
  scanned : Nat := 0
  matched : Nat := 0
  folders : Nat := 0
  ignored : Nat := 0
  errors : Nat := 0
deriving Repr, DecidableEq

def Tally.add (a b : Tally) : Tally :=
  ⟨a.scanned + b.scanned, a.matched + b.matched, a.folders + b.folders, a.ignored + b.ignored,
    a.errors + b.errors⟩

structure Walk where
  documents : List Document := []
  tally : Tally := {}
  /-- Messages about what could not be looked at. -/
  warnings : List Text := []
deriving Repr, DecidableEq

def Walk.append (a b : Walk) : Walk :=
  ⟨a.documents ++ b.documents, a.tally.add b.tally, a.warnings ++ b.warnings⟩

instance : Append Walk := ⟨Walk.append⟩

def Walk.concat (walks : List Walk) : Walk := walks.foldr Walk.append {}

/-- What is looked for on a walk, and where. -/
structure Walker where
  disk : Disk
  discovery : Discovery := {}
  limits : Limits := {}

namespace Walker

/-- Whether an entry is passed over because of its name. -/
def ignores (w : Walker) (name : Text) : Bool :=
  (!w.discovery.includeHidden && name.head? == some '.') || w.discovery.skippedFolders.contains name

def visitFile (w : Walker) (p : Path) : Walk :=
  match w.discovery.kindOf? p.extension with
  | none => { tally := { scanned := 1 } }
  | some kind =>
    let path := p.toText
    match w.disk.resolve path with
    | .error e =>
      { tally := { scanned := 1, errors := 1 }
        warnings := ["Error reading metadata of ".toList ++ path ++ ": ".toList
          ++ FileFault.message ⟨e, path⟩] }
    | .ok (_, t) =>
      if w.limits.maxBytes < t.size then { tally := { scanned := 1, ignored := 1 } }
      else { documents := [⟨path, kind⟩], tally := { scanned := 1, matched := 1 } }

/-- Visits an entry of a folder that is no folder. -/
def visitEntry (w : Walker) (p : Path) (name : Text) : Walk :=
  if w.ignores name then { tally := { ignored := 1 } } else w.visitFile (p.child name)

def leadsToFolder (w : Walker) (p : Path) (entry : Text × Tree) : Bool :=
  match entry.2 with
  | .folder _ => true
  | .link _ => ((w.disk.find? (p.child entry.1).toText).map Tree.isFolder).getD false
  | _ => false

/-- Inserts a named thing into a list that is ordered by names. -/
def insertByName {α : Type} (x : Text × α) : List (Text × α) → List (Text × α)
  | [] => [x]
  | y :: rest => if x.1.le y.1 then x :: y :: rest else y :: insertByName x rest

def byName {α : Type} (xs : List (Text × α)) : List (Text × α) := xs.foldr insertByName []

def visitFiles (w : Walker) (p : Path) (entries : List (Text × Tree)) : Walk :=
  let files := entries.filter fun entry => !w.leadsToFolder p entry
  Walk.concat ((byName files).map fun (name, _) => w.visitEntry p name)

mutual

def walkFolder (w : Walker) (p : Path) : Tree → Walk
  | .folder entries =>
    ({ tally := { folders := 1 } } : Walk) ++ w.visitFiles p entries
      ++ Walk.concat ((byName (walkSubfolders w p entries)).map (·.2))
  | _ => {}

/-- Walks through the subfolders that are not passed over, each under its name. -/
def walkSubfolders (w : Walker) (p : Path) : List (Text × Tree) → List (Text × Walk)
  | [] => []
  | (name, t) :: rest =>
    if t.isFolder && !w.ignores name then
      (name, walkFolder w (p.child name) t) :: walkSubfolders w p rest
    else walkSubfolders w p rest

end

/-- Walks from what a path leads to: through a folder, or to a single file. -/
def walkAt (w : Walker) (p : Path) : Option Tree → Walk
  | none =>
    { tally := { errors := 1 }, warnings := ["Search path does not exist: ".toList ++ p.toText] }
  | some (.folder entries) => w.walkFolder p (.folder entries)
  | some t =>
    if t.isRegular then w.visitFile p
    else
      { tally := { errors := 1 }
        warnings := ["Error walking ".toList ++ p.toText ++ ": ".toList
          ++ FileFault.message ⟨.notFolder, p.toText⟩] }

/-- Why a walk cannot begin. -/
inductive Refusal where
  | noHome
  | badPath (fault : FileFault)

def Refusal.message : Refusal → Text
  | noHome => Disk.NoHome.message.toList
  | badPath fault => fault.message

/-- Walks from a path on that may begin with a tilde. -/
def walk (w : Walker) (root : Text) : Except Refusal Walk :=
  match w.disk.expand (Path.ofText root) with
  | .error _ => .error .noHome
  | .ok p => (w.walkAt p <$> w.disk.look p.toText).mapError .badPath

end Walker

end OutlineSearch
