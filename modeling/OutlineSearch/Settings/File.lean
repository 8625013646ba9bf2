import OutlineSearch.Settings.Printer
import OutlineSearch.Tree.Basic
import OutlineSearch.Text.Lines
import OutlineSearch.Yaml.Value

/-!
# Settings files

Settings are taken from a file that is named, or else from the first file that can be read
among those with a customary name in a few folders.  Without such a file the defaults hold.
-/

namespace OutlineSearch.Settings

/-- Why settings cannot be taken from a file or written to one. -/
inductive FileRefusal where
  | notFound (path : Text)
  | unreadable (fault : FileFault)
  | malformed (path : Text) (reason : String)
  /-- The file holds a value of some other type than a map. -/
  | notMap (type : String)
  | invalid (problems : List Problem)
  | unwritable (path : Text) (fault : FileFault)
  | templateUnwritable (path : Text) (fault : FileFault)
  /-- The bytes of the file are no text. -/
  | notText (defect : Utf8.Defect)
  /-- A scalar is written like a value of its type and denotes none. -/
  | badValue (error : Yaml.Error)
  /-- A number in a warning or among the settings has more digits than may be written. -/
  | tooLong
  /-- A path with a NUL in it. -/
  | badPath
  /-- A path with a name that is too long for a file. -/
  | longName (fault : FileFault)
  | noHome
deriving Repr

namespace FileRefusal

def problemsText (problems : List Problem) : Text :=
  Text.join "; ".toList
    (problems.map fun p => p.place ++ ": ".toList ++ p.cause.message.toList)

def message : FileRefusal → Text
  | notFound path => "Configuration file not found: ".toList ++ path
  | unreadable fault =>
    "Cannot read configuration file ".toList ++ fault.path ++ ": ".toList ++ fault.message
  | malformed path reason =>
    "Invalid YAML syntax in ".toList ++ path ++ ": ".toList ++ reason.toList
  | notMap type => "Configuration file must contain a YAML object, got ".toList ++ type.toList
  | invalid problems => "Configuration validation failed: ".toList ++ problemsText problems
  | unwritable path fault =>
    "Cannot write configuration file ".toList ++ path ++ ": ".toList ++ fault.message
  | templateUnwritable path fault =>
    "Cannot create template file ".toList ++ path ++ ": ".toList ++ fault.message
  | notText defect => defect.message.toList
  | badValue error => error.message.toList
  | tooLong => Text.tooLong.toList
  | badPath => FileError.nulInPath.wording.toList
  | longName fault => fault.message
  | noHome => Disk.NoHome.message.toList

/-- Whether a refusal concerns the file alone, so that the search for a file goes on. -/
def isPassedOver : FileRefusal → Bool
  | unreadable _ | malformed .. | notMap _ => true
  | _ => false

/-- Whether a refusal is reported to the user; any other one stops the program. -/
def isReported : FileRefusal → Bool
  | notText _ | badValue _ | tooLong | badPath | longName _ | noHome => false
  | _ => true

end FileRefusal

/-- An outcome, and what is worth knowing about the files that were looked at. -/
structure Noted (α : Type) where
  notices : List Text
  outcome : Except FileRefusal α

namespace Noted

def plain {α : Type} (outcome : Except FileRefusal α) : Noted α := ⟨[], outcome⟩

def andThen {α β : Type} (x : Noted α) (f : α → Noted β) : Noted β :=
  match x.outcome with
  | .error refusal => ⟨x.notices, .error refusal⟩
  | .ok a =>
    let y := f a
    ⟨x.notices ++ y.notices, y.outcome⟩

/-- An outcome with more notices in front. -/
def after {α : Type} (notices : List Text) (x : Noted α) : Noted α :=
  { x with notices := notices ++ x.notices }

end Noted

/-! ## Reading -/

/-- The data in the text of a file; a file without a value holds no settings. -/
def dataOf (path content : Text) (reader : Yaml.Reader := fun t => Yaml.load t) :
    Noted (List (Data × Data)) :=
  if content.isAllBlank then
    ⟨["Configuration file is empty: ".toList ++ path], .ok []⟩
  else .plain <|
    match reader content with
    | .error (.malformed reason line) =>
      .error (.malformed path (Yaml.Error.malformed reason line).message)
    | .error e => .error (.badValue e)
    | .ok none => .ok []
    | .ok (some .null) => .ok []
    | .ok (some (.map entries)) => .ok entries
    | .ok (some d) => .error (.notMap d.typeName)

def readData (disk : Disk) (path : Text) (reader : Yaml.Reader := fun t => Yaml.load t) :
    Noted (List (Data × Data)) :=
  match disk.read path with
  | .error fault => .plain (.error (.unreadable fault))
  | .ok bytes =>
    match Utf8.decode bytes with
    | .error defect => .plain (.error (.notText defect))
    | .ok content => dataOf path content.normalizeNewlines reader

def build (d : Data) : Except FileRefusal Settings :=
  (Settings.check d).toExcept.mapError .invalid

/-- Settings and the file that they were taken from. -/
structure Loaded where
  settings : Settings
  /-- The path of the file; `none` if the defaults hold because there is none. -/
  source : Option Text

def loadedFrom (path : Text) (entries : List (Data × Data)) : Except FileRefusal Loaded :=
  (fun s => ⟨s, some path⟩) <$> build (.map entries)

/-- The data in the file with a path, if there is one. -/
def dataAt (disk : Disk) (path : Text) (reader : Yaml.Reader) : Noted (List (Data × Data)) :=
  match disk.look path with
  | .error fault => .plain (.error (.longName fault))
  | .ok none => .plain (.error (.notFound path))
  | .ok (some _) => readData disk path reader

def loadAt (disk : Disk) (path : Text) (reader : Yaml.Reader) : Noted Loaded :=
  (dataAt disk path reader).andThen fun entries => .plain (loadedFrom path entries)

/-- Takes settings from the file with a path that may begin with a tilde. -/
def loadFile (disk : Disk) (path : Text) (reader : Yaml.Reader) : Noted Loaded :=
  match disk.expand (Path.ofText path) with
  | .error _ => .plain (.error .noHome)
  | .ok p => loadAt disk p.toText reader

/-- The names that a settings file may have, the preferred one first. -/
def fileNames : List String := [".marks.yaml", ".marks.yml", "marks.yaml", "marks.yml"]

/-- The folders in which a settings file is looked for, in order: the current one, the home
folder, and the folder for settings in it. -/
def folders (disk : Disk) : List Path :=
  let home := Path.ofText disk.home
  [⟨['/'], disk.here⟩, home, (home.child ".config".toList).child "marks".toList]

/-- The paths at which a settings file is looked for, in order. -/
def candidates (disk : Disk) : List Text :=
  (folders disk).flatMap fun folder => fileNames.map fun name => (folder.child name.toList).toText

/-- The data in the first of several files that is a regular file and can be read. -/
def findData (disk : Disk) (reader : Yaml.Reader) :
    List Text → Noted (Option (Text × List (Data × Data)))
  | [] => .plain (.ok none)
  | path :: rest =>
    match disk.look path with
    | .error fault => .plain (.error (.longName fault))
    | .ok found =>
      if (found.map Tree.isRegular).getD false then
        let read := readData disk path reader
        match read.outcome with
        | .ok entries => ⟨read.notices, .ok (some (path, entries))⟩
        | .error refusal =>
          if refusal.isPassedOver then
            let notice :=
              "Failed to load ".toList ++ path ++ ": ".toList ++ refusal.message
            (findData disk reader rest).after (read.notices ++ [notice])
          else ⟨read.notices, .error refusal⟩
      else findData disk reader rest

/-- Settings whose warnings can be written. -/
def withWarnings (loaded : Loaded) : Except FileRefusal Loaded :=
  let workers := loaded.settings.limits.workers
  if 64 < workers && !Text.fits workers then .error .tooLong else .ok loaded

/-- Takes settings from the file with a path, or from the first that is found if the path is
missing or empty. -/
def load (disk : Disk) (path : Option Text) (reader : Yaml.Reader := fun t => Yaml.load t) :
    Noted Loaded :=
  let loaded := match path with
    | some (c :: rest) => loadFile disk (c :: rest) reader
    | _ =>
      (findData disk reader (candidates disk)).andThen fun
        | some (path, entries) => .plain (loadedFrom path entries)
        | none => .plain (.ok ⟨{}, none⟩)
  loaded.andThen fun loaded => .plain (withWarnings loaded)

/-- The messages about what is wrong with a file, none if it can be used. -/
def validateFile (disk : Disk) (path : Text) (reader : Yaml.Reader := fun t => Yaml.load t) :
    Except FileRefusal (List Text) :=
  match (loadAt disk (Path.ofText path).toText reader).outcome with
  | .ok _ => .ok []
  | .error refusal => if refusal.isReported then .ok [refusal.message] else .error refusal

/-! ## Writing -/

/-- Writes a text to a file; the folders that it lies in are made. -/
def writeText (disk : Disk) (p : Path) (content : Text) : Except FileFault Disk := do
  let disk ← disk.makeFolders p.parent
  disk.write p.toText (Utf8.encode content)

/-- Writes a text to the file with a path; `unwritable` is the refusal if that fails. -/
def writeFile (unwritable : Text → FileFault → FileRefusal) (disk : Disk) (path content : Text) :
    Except FileRefusal Disk :=
  let p := Path.ofText path
  match writeText disk p content with
  | .ok disk => .ok disk
  | .error fault =>
    .error (if fault.error = .nulInPath then .badPath else unwritable p.toText fault)

/-- Writes settings to a file; `unwritable` is the refusal if the file cannot be written. -/
def writeSettings (unwritable : Text → FileFault → FileRefusal) (s : Settings) (disk : Disk)
    (path : Text) : Except FileRefusal Disk :=
  match s.render with
  | .error _ => .error .tooLong
  | .ok content => writeFile unwritable disk path content

def save (s : Settings) (disk : Disk) (path : Text) : Except FileRefusal Disk :=
  writeSettings .unwritable s disk path

/-- Writes a file with all settings and their defaults. -/
def createTemplate (disk : Disk) (path : Text) : Except FileRefusal Disk :=
  writeSettings .templateUnwritable {} disk path

end OutlineSearch.Settings
