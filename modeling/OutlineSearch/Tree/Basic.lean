import OutlineSearch.Text.Quoted
import OutlineSearch.Text.Utf8
import OutlineSearch.Tree.Path

/-!
# Trees of files

What a path leads to is found in a tree of folders, files and links.
-/

namespace OutlineSearch

/-- A file, a link or a folder with what is in it. -/
inductive Tree where
  | file (content : List UInt8)
  /-- A regular file that seems empty and cannot be read. -/
  | unreadable
  /-- Something that is neither a regular file nor a folder and holds nothing. -/
  | device
  | link (target : Text)
  /-- A folder; no two entries have the same name. -/
  | folder (entries : List (Text × Tree))

instance : Inhabited Tree := ⟨.folder []⟩

inductive FileError where
  | missing
  | inputOutput
  | present
  | notFolder
  | isFolder
  | nameTooLong
  | tooManyLinks
  | nulInPath
deriving Repr, DecidableEq

namespace FileError

def number : FileError → Nat
  | missing => 2
  | inputOutput => 5
  | present => 17
  | notFolder => 20
  | isFolder => 21
  | nameTooLong => 36
  | tooManyLinks => 40
  | nulInPath => 0

def wording : FileError → String
  | missing => "No such file or directory"
  | inputOutput => "Input/output error"
  | present => "File exists"
  | notFolder => "Not a directory"
  | isFolder => "Is a directory"
  | nameTooLong => "File name too long"
  | tooManyLinks => "Too many levels of symbolic links"
  | nulInPath => "embedded null byte"

/-- Whether an error only says that a path leads nowhere. -/
def leadsNowhere : FileError → Bool
  | missing | notFolder | tooManyLinks | nulInPath => true
  | _ => false

end FileError

/-- An error and the path it concerns. -/
structure FileFault where
  error : FileError
  path : Text
deriving Repr, DecidableEq

/-- The wording of a fault.  An error while reading does not name the path. -/
def FileFault.message (f : FileFault) : Text :=
  match f.error with
  | .nulInPath => f.error.wording.toList
  | .inputOutput => s!"[Errno {f.error.number}] ".toList ++ f.error.wording.toList
  | e => s!"[Errno {e.number}] ".toList ++ e.wording.toList ++ ": ".toList ++ f.path.quoted

namespace Tree

def child? (name : Text) : Tree → Option Tree
  | folder entries => entries.lookup name
  | _ => none

/-- What lies at the end of a sequence of names, none of which is followed if it is a link. -/
def at? : Tree → List Text → Option Tree
  | t, [] => some t
  | t, name :: rest => (t.child? name).bind (at? · rest)

def isFolder : Tree → Bool
  | folder _ => true
  | _ => false

def isRegular : Tree → Bool
  | file _ | unreadable => true
  | _ => false

/-- The number of bytes in something. -/
def size : Tree → Nat
  | file content => content.length
  | _ => 0

/-- Puts something into a folder, in the place of what had that name. -/
def setEntry (name : Text) (t : Tree) : List (Text × Tree) → List (Text × Tree)
  | [] => [(name, t)]
  | (n, u) :: rest => if n = name then (n, t) :: rest else (n, u) :: setEntry name t rest

/-- Puts something at the end of a sequence of names.  Folders that are missing are made. -/
def insert (t : Tree) : List Text → Tree → Tree
  | [], _ => t
  | name :: rest, folder entries =>
    folder (setEntry name (insert t rest ((entries.lookup name).getD (folder []))) entries)
  | name :: rest, _ => folder [(name, insert t rest (folder []))]

end Tree

/-- A tree as it is seen from a folder in it. -/
structure Disk where
  root : Tree
  /-- The names that lead to the current folder. -/
  here : List Text
  /-- The path of the home folder. -/
  home : Text

namespace Disk

/-- No name is longer than this number of bytes. -/
def maxNameBytes : Nat := 255

/-- No more links than this number are followed on the way to one place. -/
def maxLinks : Nat := 40

/-- Whether a piece of a path leaves one where one is. -/
def isIdle (name : Text) : Bool := name.isEmpty || name = ['.']

section Follow

variable (d : Disk)

/-- Follows names from a place on.  The result is a place that is no link and what is there;
at a link `jump` goes on from a place with the names that are left. -/
def followNames (jump : List Text → List Text → Except FileError (List Text × Tree))
    (place : List Text) : List Text → Except FileError (List Text × Tree)
  | [] => match d.root.at? place with
    | some t => .ok (place, t)
    | none => .error .missing
  | name :: rest =>
    match d.root.at? place with
    | some (.folder entries) =>
      if isIdle name then followNames jump place rest
      else if name = ['.', '.'] then followNames jump place.dropLast rest
      else if maxNameBytes < (Utf8.encode name).length then .error .nameTooLong
      else match entries.lookup name with
        | none => .error .missing
        | some (.link target) =>
          let start := if target.head? = some '/' then [] else place
          jump start (Text.splitOnChar '/' target ++ rest)
        | some _ => followNames jump (place ++ [name]) rest
    | _ => .error .notFolder

/-- Follows names from a place on, where no more than `links` links are followed. -/
def follow : Nat → List Text → List Text → Except FileError (List Text × Tree)
  | 0 => d.followNames fun _ _ => .error .tooManyLinks
  | links + 1 => d.followNames (follow links)

end Follow

/-- The place that a path leads to and what is there, links followed. -/
def resolve (d : Disk) (path : Text) : Except FileError (List Text × Tree) :=
  if path.isEmpty then .error .missing
  else if path.contains (Char.ofNat 0) then .error .nulInPath
  else
    let start := if path.head? = some '/' then [] else d.here
    d.follow maxLinks start (Text.splitOnChar '/' path)

/-- What a path leads to. -/
def find? (d : Disk) (path : Text) : Option Tree :=
  match d.resolve path with
  | .ok (_, t) => some t
  | .error _ => none

/-- What a path leads to, if anything.  There is no looking for a name that is too long. -/
def look (d : Disk) (path : Text) : Except FileFault (Option Tree) :=
  match d.resolve path with
  | .ok (_, t) => .ok (some t)
  | .error e => if e.leadsNowhere then .ok none else .error ⟨e, path⟩

/-- The bytes of a file. -/
def read (d : Disk) (path : Text) : Except FileFault (List UInt8) :=
  match d.resolve path with
  | .error e => .error ⟨e, path⟩
  | .ok (_, .file content) => .ok content
  | .ok (_, .unreadable) => .error ⟨.inputOutput, path⟩
  | .ok (_, .folder _) => .error ⟨.isFolder, path⟩
  | .ok _ => .ok []

/-- The place at which a new file is made for a path that leads nowhere: inside the folder
that the path leads to without its last name, or where a link with that name points. -/
def placeFor (d : Disk) : Nat → Text → Except FileError (List Text)
  | 0, _ => .error .tooManyLinks
  | links + 1, path =>
    let pieces := Text.splitOnChar '/' path
    let start := if path.head? = some '/' then [] else d.here
    match d.follow maxLinks start pieces.dropLast with
    | .error e => .error e
    | .ok (place, .folder entries) =>
      let name := pieces.getLast?.getD []
      if isIdle name || name = ['.', '.'] then .error .isFolder
      else if maxNameBytes < (Utf8.encode name).length then .error .nameTooLong
      else match entries.lookup name with
        | some (.link target) =>
          if target.head? = some '/' then placeFor d links target
          else placeFor d links ('/' :: Text.join ['/'] place ++ '/' :: target)
        | _ => .ok (place ++ [name])
    | .ok _ => .error .notFolder

/-- Writes a file, which is made if it does not exist. -/
def write (d : Disk) (path : Text) (content : List UInt8) : Except FileFault Disk :=
  match d.resolve path with
  | .ok (_, .folder _) => .error ⟨.isFolder, path⟩
  | .ok (place, .file _) => .ok { d with root := Tree.insert (.file content) place d.root }
  | .ok _ => .ok d
  | .error .missing =>
    match d.placeFor maxLinks path with
    | .ok place => .ok { d with root := Tree.insert (.file content) place d.root }
    | .error e => .error ⟨e, path⟩
  | .error e => .error ⟨e, path⟩

/-- Makes one folder.  The folder that it lies in has to exist. -/
def makeFolder (d : Disk) (path : Text) : Except FileFault Disk :=
  let pieces := Text.splitOnChar '/' path
  let start := if path.head? = some '/' then [] else d.here
  let name := pieces.getLast?.getD []
  if path.contains (Char.ofNat 0) then .error ⟨.nulInPath, path⟩
  else match d.follow maxLinks start pieces.dropLast with
  | .error e => .error ⟨e, path⟩
  | .ok (place, .folder entries) =>
    if isIdle name || name = ['.', '.'] || (entries.lookup name).isSome then
      .error ⟨.present, path⟩
    else if maxNameBytes < (Utf8.encode name).length then .error ⟨.nameTooLong, path⟩
    else .ok { d with root := Tree.insert (.folder []) (place ++ [name]) d.root }
  | .ok _ => .error ⟨.notFolder, path⟩

/-- Makes a folder and the folders that it lies in.  A folder that exists already will do.
The names of the path bound how far up missing folders are looked for. -/
def makeFolders (d : Disk) (p : Path) : Except FileFault Disk :=
  go d (p.names.length + 1) p
where
  go (d : Disk) : Nat → Path → Except FileFault Disk
    | 0, p => .error ⟨.missing, p.toText⟩
    | limit + 1, p =>
      match d.makeFolder p.toText with
      | .ok d => .ok d
      | .error ⟨.missing, path⟩ =>
        if p.names.isEmpty then .error ⟨.missing, path⟩
        else match go d limit p.parent with
          | .error fault => .error fault
          | .ok d => keepExisting d p.toText (d.makeFolder p.toText)
      | outcome => keepExisting d p.toText outcome
  keepExisting (d : Disk) (path : Text) : Except FileFault Disk → Except FileFault Disk
    | .ok d => .ok d
    | .error fault =>
      if ((d.find? path).map Tree.isFolder).getD false then .ok d else .error fault

/-- A home folder that is not known. -/
structure NoHome where

def NoHome.message : String := "Could not determine home directory."

/-- A path in which a tilde at the start stands for the home folder. -/
def expand (d : Disk) (p : Path) : Except NoHome Path :=
  match p.root, p.names with
  | [], ('~' :: user) :: rest =>
    if user.isEmpty then
      let home := Path.ofText d.home
      .ok { home with names := home.names ++ rest }
    else .error {}
  | _, _ => .ok p

end Disk

end OutlineSearch
