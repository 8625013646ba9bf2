import OutlineSearch.Command.Program

/-!
# The command

Looks at the files that a search may need and answers the command line.  A link to a folder
is taken for a link that is not followed, and a document that cannot be read for one that
cannot be read at all.
-/

namespace OutlineSearch.Command

/-- A folder at a place, unless there is something already. -/
def withFolder (t : Tree) (place : List Text) : Tree :=
  if (t.at? place).isSome then t else Tree.insert (.folder []) place t

/-- A tree in which a path can be followed from a place on, and the end of the path. -/
def withPath (t : Tree) (place : List Text) : List Text → Tree × List Text
  | [] => (t, place)
  | name :: rest =>
    let place := if name = ['.', '.'] then place.dropLast else place ++ [name]
    withPath (withFolder t place) place rest

/-- Where a link leads that leads nowhere. -/
def nowhere : Text := ['/', Char.ofNat 1]

/-- A disk with something at the end of a path. -/
def withTree (d : Disk) (path : Text) (t : Tree) : Disk :=
  let p := Path.ofText path
  let (root, place) := withPath d.root (if p.isAbsolute then [] else d.here) p.names
  { d with root := Tree.insert t place root }

/-- The content of a file. -/
def contentAt (path : String) : IO Tree := do
  let file := (← IO.currentDir) / path
  try
    let bytes ← IO.FS.readBinFile file
    pure (.file bytes.toList)
  catch _ => pure .unreadable

/-- What lies at a path.  Only files with a name that is wanted are read. -/
partial def treeAt (isWanted : Text → Bool) (path : String) : IO (Option Tree) := do
  let file := (← IO.currentDir) / path
  try
    match (← file.metadata).type with
    | .dir =>
      let mut entries := []
      for entry in ← file.readDir do
        let name := entry.fileName
        let inner := path ++ "/" ++ name
        let isLink := (← (file / name).symlinkMetadata).type == .symlink
        let below ← if isLink && (← (file / name).isDir) then pure (some (.link ['/']))
          else treeAt isWanted inner
        entries := (name.toList, below.getD (.link nowhere)) :: entries
      pure (some (.folder entries))
    | .file =>
      if isWanted (Path.ofText path.toList).name then some <$> contentAt path
      else pure (some (.file []))
    | _ => pure (some .device)
  catch _ => pure none

def look (d : Disk) (isWanted : Text → Bool) (path : Text) : IO Disk := do
  match ← treeAt isWanted (String.ofList path) with
  | some t => pure (withTree d path t)
  | none => pure d

/-- A disk with a settings file, if there is one; a folder is not looked into. -/
def lookForFile (d : Disk) (path : Text) : IO Disk := do
  let file := (← IO.currentDir) / String.ofList path
  if ← file.isDir then pure (withTree d path (.folder []))
  else if ← file.pathExists then look d (fun _ => true) path
  else pure d

/-- A path with the home folder in place of a tilde. -/
def expanded (d : Disk) (path : Text) : Text :=
  match d.expand (Path.ofText path) with
  | .ok p => p.toText
  | .error _ => path

/-- A disk with the settings files that options may need. -/
def withSettings (d : Disk) (o : Options) : IO Disk := do
  let named := (o.config.filter fun t => !t.isEmpty).map fun path => [expanded d path]
  (named.getD (Settings.candidates d)).foldlM lookForFile d

/-- Which documents are searched; `none` if the options cannot be met. -/
def discoveryFor (d : Disk) (o : Options) : Option Discovery :=
  match (Settings.load d o.config).outcome with
  | .error _ => none
  | .ok found => (o.discovery found.settings.discovery).toOption

/-- A disk with the files that options need. -/
def diskFor (d : Disk) (o : Options) : IO Disk := do
  let discovery := discoveryFor (← withSettings d o) o
  let isWanted (name : Text) : Bool :=
    ((discovery.bind (·.kindOf? (Path.extensionOf name))).isSome)
  withSettings (← look d isWanted (expanded d o.path)) o

end OutlineSearch.Command

open OutlineSearch

/-- Answers the command line. -/
def main (args : List String) : IO UInt32 := do
  let words := args.map String.toList
  let here := (Path.ofText (toString (← IO.currentDir)).toList).names
  let home := (← IO.getEnv "HOME").getD "/"
  let bare : Disk := { root := .folder [], here := here, home := home.toList }
  let start := { bare with root := Command.withFolder bare.root here }
  let disk ← match Command.Options.ofWords words with
    | .ok o => Command.diskFor start o
    | .error _ => pure start
  let output ← IO.getStdout
  match Command.run disk (← output.isTty) words with
  | .ok finish =>
    IO.eprint (String.ofList finish.messages)
    output.putStr (String.ofList finish.output)
    pure (UInt32.ofNat finish.status)
  | .error failure =>
    IO.eprintln (String.ofList failure.message)
    pure 1
