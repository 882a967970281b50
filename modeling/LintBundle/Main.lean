import LintBundle.Command.Run

/-!
# Main — the command line, on the files of a disk

A command works on a tree of files.  The part of the disk that a command can look at is read into
one, the command is run on it, and what it prints and writes is handed over, whether it succeeds or
not.  Nothing is decided here but what has to be read: the places a path leads through, and the
manifests of a project and of the packages installed in it.  Places whose names are not encoded in
UTF-8 count as missing.
-/

namespace LintBundle.Disk

/-- The name of a file that a text stands for. -/
def nameOf (s : String) : FileName := Text.fileBytes s

/-- A place on the disk as text. -/
def placeText (place : List FileName) : Option String := do
  let names ← place.mapM fun name => String.fromUTF8? ⟨name.toArray⟩
  return "/" ++ "/".intercalate names

/-- What stands at a place, a directory without its entries; nothing where nothing can be read. -/
def look (place : List FileName) : IO (Option Tree) := do
  let some text := placeText place | return none
  try
    let found ← IO.FS.realPath text
    if ← found.isDir then return some .empty
    else return some (.file (← IO.FS.readBinFile found))
  catch _ => return none

/-- The names in a directory; none where it cannot be read. -/
def names (place : List FileName) : IO (List String) := do
  let some text := placeText place | return []
  try
    let found ← IO.FS.realPath text
    return (← found.readDir).toList.map fun entry => entry.fileName
  catch _ => return []

/-! ## Reading -/

/-- Adds what stands at a place; a directory that is there keeps its entries. -/
def addPlace (files : Files) (place : List FileName) : IO Files := do
  match ← look place, files.root.at? place with
  | none, _ | some (.directory _), some (.directory _) => return files
  | some found, _ => return { files with root := files.root.put place found }

/-- Adds all places that a path leads through. -/
def addPath (files : Files) (p : Path) : IO Files := do
  let step (state : Files × List FileName) (part : Text) : IO (Files × List FileName) := do
    let place := if part = ".." then state.2.dropLast else state.2 ++ [part.fileBytes]
    return (← addPlace state.1 place, place)
  let (files, _) ← p.parts.foldlM step (files, files.startOf p)
  return files

/-- Adds a package with its manifests. -/
def addPackage (files : Files) (place : List FileName) : IO Files := do
  (manifestFiles.map fun name => place ++ [name.fileBytes]).foldlM addPlace (← addPlace files place)

/-- Adds the packages installed in a directory, those of a scope one level further in. -/
def addPackages (files : Files) (place : List FileName) : IO Files := do
  let mut files ← addPlace files place
  for name in ← names place do
    let inner := place ++ [nameOf name]
    files ← addPackage files inner
    if name.startsWith "@" then
      for member in ← names inner do
        files ← addPackage files (inner ++ [nameOf member])
  return files

/-- Adds a project directory. -/
def addProject (files : Files) (root : Path) : IO Files := do
  match files.locate root with
  | .error _ => return files
  | .ok place =>
    let files ← addPackage files place
    let files ← addPlace files (place ++ [nameOf "package.json"])
    addPackages files (place ++ [packagesDirectory.fileBytes])

/-- The files that a command can look at. -/
def filesFor (c : Command) : IO Files := do
  let working := (Path.ofText (← IO.currentDir).toString).parts
  let files ← addPath ⟨.empty, working⟩ ⟨.root, working⟩
  let files ← addPath files (.ofText c.config)
  let root := c.projectRoot files
  let files ← addProject (← addPath files root) root
  match c.output with
  | none => return files
  | some output => addPath files (.ofText output)

/-! ## Writing -/

/-- Makes the directories and writes the file that a command left for its output. -/
def writeOutput (c : Command) (before after : Files) : IO Unit := do
  let some output := c.output | return
  let p := Path.ofText output
  let stands (files : Files) (p : Path) : Bool := (files.isDirectory p).toOption = some true
  for count in List.range p.parts.length do
    let directory : Path := ⟨p.start, p.parts.take count⟩
    if stands after directory && !stands before directory then
      if let some text := directory.text.written? then IO.FS.createDir text
  match after.content p, p.text.written? with
  | .ok content, some text =>
    if (before.content p).toOption.map ByteArray.data ≠ some content.data
      then IO.FS.writeBinFile text content
  | _, _ => return

end LintBundle.Disk

open LintBundle in
/-- **Runs the command that the arguments ask for.** -/
def main (arguments : List String) : IO UInt32 := do
  match Command.ofArguments? (arguments.map Text.ofString) with
  | none =>
    IO.eprintln "Usage: compile CONFIG [--root DIR] [--output FILE]"
    IO.eprintln "       rules CONFIG [--root DIR]"
    return 2
  | some c =>
    let files ← Disk.filesFor c
    let outcome := c.run files
    Disk.writeOutput c files outcome.files
    IO.print outcome.stdout
    IO.eprint outcome.stderr
    match outcome.escaped with
    | none => pure ()
    | some fault => IO.eprintln (errorText ("Failure: " ++ fault.message))
    return outcome.exitCode.toUInt32
