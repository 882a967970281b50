import LintBundle.Files.Path

/-!
# Files/Tree — files and directories

The files of a run are a tree with a working directory in it.  Its names are bytes, which the parts
of a path stand for.  A path is followed part by part:
every part but the last has to lead through a directory, and double dots lead back from the
directory reached.
-/

namespace LintBundle

/-- The name of a file or a directory. -/
abbrev FileName := List UInt8

/-- A file with its bytes, or a directory with its entries. -/
inductive Tree
  | file (content : ByteArray)
  | directory (entries : List (FileName × Tree))

namespace Tree

/-- The directory without entries. -/
def empty : Tree := .directory []

instance : Inhabited Tree := ⟨empty⟩

/-- The entry of a directory. -/
def entry? (name : FileName) : Tree → Option Tree
  | .file _ => none
  | .directory entries => (entries.find? fun (n, _) => n = name).map Prod.snd

/-- What stands at names from a tree on. -/
def at? (t : Tree) : List FileName → Option Tree
  | [] => some t
  | name :: rest => (t.entry? name).bind fun t => t.at? rest

/-- Puts a tree at names, in directories that are made where they are missing. -/
def put (t : Tree) (names : List FileName) (new : Tree) : Tree :=
  match names with
  | [] => new
  | name :: rest =>
    let inner := ((t.entry? name).getD empty).put rest new
    match t with
    | .file _ => .directory [(name, inner)]
    | .directory entries =>
      if entries.any fun (n, _) => n = name then
        .directory (entries.map fun (n, t) => if n = name then (n, inner) else (n, t))
      else .directory (entries ++ [(name, inner)])

mutual

/-- The bytes of all files. -/
def size : Tree → Nat
  | .file content => content.size
  | .directory entries => sizeEntries entries

def sizeEntries : List (FileName × Tree) → Nat
  | [] => 0
  | (_, t) :: rest => size t + sizeEntries rest

end

end Tree

/-- Files, and the parts of the path from their root to the working directory. -/
structure Files where
  root : Tree
  working : List Text

namespace Files

/-- The place where a path begins. -/
def startOf (files : Files) (p : Path) : List FileName :=
  if p.isAbsolute then [] else files.working.map Text.fileBytes

/-- Follows parts from a place on. -/
def follow (root : Tree) (place : List FileName) : List Text → Except PathFault (List FileName)
  | [] => .ok place
  | part :: rest =>
    match root.at? place with
    | some (.directory entries) =>
      if part = ".." then follow root place.dropLast rest
      else if nameLimit < part.fileBytes.length then .error .nameTooLong
      else if entries.any fun (n, _) => n = part.fileBytes then
        follow root (place ++ [part.fileBytes]) rest
      else .error .missing
    | _ => .error .notDirectory

/-- The place a path leads to. -/
def locate (files : Files) (p : Path) : Except PathFault (List FileName) :=
  match p.fault? with
  | some cause => .error cause
  | none => follow files.root (files.startOf p) p.parts

/-- What stands at a path. -/
def find (files : Files) (p : Path) : Except PathFault Tree := do
  let place ← files.locate p
  (files.root.at? place).elim (.error .missing) .ok

/-- What stands at a path, if anything does; a path that is too long cannot even be asked for. -/
def look (files : Files) (p : Path) : Except PathFault (Option Tree) :=
  match files.find p with
  | .ok t => .ok (some t)
  | .error .nameTooLong => .error .nameTooLong
  | .error _ => .ok none

/-- Whether a directory stands at a path. -/
def isDirectory (files : Files) (p : Path) : Except PathFault Bool :=
  (files.look p).map fun
    | some (.directory _) => true
    | _ => false

/-- Whether a file stands at a path. -/
def isFile (files : Files) (p : Path) : Except PathFault Bool :=
  (files.look p).map fun
    | some (.file _) => true
    | _ => false

/-- The bytes of the file at a path. -/
def content (files : Files) (p : Path) : Except PathFault ByteArray := do
  match ← files.find p with
  | .file content => .ok content
  | .directory _ => .error .isDirectory

/-- One line feed for each of the ways to end a line. -/
def unifyLines : List Char → List Char
  | '\r' :: '\n' :: r => '\n' :: unifyLines r
  | c :: r => (if c = '\r' then '\n' else c) :: unifyLines r
  | [] => []

/-- The characters of a file in UTF-8. -/
def decode (content : ByteArray) : Option (List Char) :=
  (String.fromUTF8? content).map fun s => unifyLines s.toList

/-! ## Absolute paths -/

/-- The names a path leads through from the root, each double dot taking back the name before. -/
def resolve (files : Files) (p : Path) : Path :=
  let step (names : List Text) (part : Text) : List Text :=
    if part = ".." then names.dropLast else names ++ [part]
  ⟨.root, p.parts.foldl step (if p.isAbsolute then [] else files.working)⟩

/-! ## Changes -/

/-- Where a new entry would stand, if the path ends in a name: the place of its directory, and the
name. -/
def slot (files : Files) (p : Path) : Except PathFault (Option (List FileName)) := do
  if let some cause := p.fault? then .error cause
  let place ← files.locate p.parent
  match files.root.at? place with
  | some (.directory _) =>
    if p.name = "" || p.name = ".." then .ok none
    else if nameLimit < p.name.fileBytes.length then .error .nameTooLong
    else .ok (some (place ++ [p.name.fileBytes]))
  | _ => .error .notDirectory

/-- Makes one directory. -/
def makeDirectory (files : Files) (p : Path) : Except PathFault Files := do
  match ← files.slot p with
  | none => .error .alreadyExists
  | some place =>
    if (files.root.at? place).isSome then .error .alreadyExists
    else .ok { files with root := files.root.put place .empty }

/-- The fault of a directory that could not be made, unless it is there already. -/
def unlessDirectory (files : Files) (p : Path) (cause : PathFault) : Option PathFault :=
  if cause ≠ .unusable && (files.isDirectory p).toOption = some true then none else some cause

/-- Makes a directory and those it lies in, with the files as they are by then; a directory that is
there is left as it is.  `room` is how many may be made besides. -/
def makeMissing (p : Path) : Nat → Files → Files × Option PathFault
  | room, files =>
    match files.makeDirectory p with
    | .ok files => (files, none)
    | .error .missing =>
      match room with
      | 0 => (files, some (if p.parts.isEmpty then .missing else .tooDeep))
      | room + 1 =>
        match makeMissing p.parent room files with
        | (files, some cause) => (files, some cause)
        | (files, none) =>
          match files.makeDirectory p with
          | .ok files => (files, none)
          | .error cause => (files, files.unlessDirectory p cause)
    | .error cause => (files, files.unlessDirectory p cause)

/-- Makes a directory and those it lies in where they are missing. -/
def makeDirectories (files : Files) (p : Path) : Files × Option PathFault :=
  makeMissing p (min p.parts.length directoryLimit) files

/-- Writes a file in a directory that is there. -/
def write (files : Files) (p : Path) (content : ByteArray) : Except PathFault Files := do
  match ← files.slot p with
  | none => .error .isDirectory
  | some place =>
    match files.root.at? place with
    | some (.directory _) => .error .isDirectory
    | _ => .ok { files with root := files.root.put place (.file content) }

end Files

end LintBundle
