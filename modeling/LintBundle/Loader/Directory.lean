import LintBundle.Document
import LintBundle.Files.Tree
import LintBundle.Json.Reader
import LintBundle.Loader.Basic
import LintBundle.Yaml

/-!
# Loader/Directory — modules and configurations in files

A project directory serves its own files under `.` and `./`, and packages from the directory they
are installed in.  A package exports its manifest, which is the first one found under the names a
manifest can have.  Files are read as JSON if their name says so, and else as YAML.
-/

namespace LintBundle

/-- The names of manifest files, the first of which counts. -/
def manifestFiles : List Text :=
  ["bpmnlint-plugin.yaml", "bpmnlint-plugin.yml", "bpmnlint-plugin.json"]

/-- The directory that packages are installed in. -/
def packagesDirectory : Text := "node_modules"

namespace Files

/-- The reason of a file whose text breaks its grammar. -/
def cannotParse : Text := "cannot parse"

/-- The characters of a file. -/
def readText (files : Files) (p : Path) : Except Fault (List Char) :=
  match files.content p with
  | .error .unusable => .error (.access .unusable)
  | .error cause => .error (.configFile p.text cause.message)
  | .ok content => (decode content).elim (.error .notUnicode) .ok

/-- What a text writes, where a text that breaks the grammar is a fault of its file. -/
def parsed {α : Type} (p : Path) (result : Except TextFault α) : Except Fault α :=
  match result with
  | .ok v => .ok v
  | .error .malformed => .error (.configFile p.text cannotParse)
  | .error cause => .error (.text cause)

/-- The value a file writes. -/
def readValue (files : Files) (p : Path) : Except Fault Value := do
  let cs ← files.readText p
  if p.hasExtension ".json" then parsed p ((Json.read cs).map Json.toValue)
  else parsed p (Yaml.read cs)

/-- **The configuration a file writes.** -/
def readConfig (files : Files) (p : Path) : Except Fault Document := do
  let v ← parsed p (Yaml.read (← files.readText p))
  match Document.ofValue v with
  | .ok document => .ok document
  | .error cause => .error (.configFile p.text cause.message)

/-- The first of some paths at which a file stands. -/
def firstFile (files : Files) : List Path → Except Fault (Option Path)
  | [] => .ok none
  | p :: rest => do
    if ← (files.isFile p).mapError .access then return some p else files.firstFile rest

/-- The manifest of a package directory. -/
def readManifest (files : Files) (directory : Path) (specifier : Text) : Except Fault Value := do
  match ← files.firstFile (manifestFiles.map directory.child) with
  | some p => files.readValue p
  | none =>
    .error (.notFound specifier
      (some ("no manifest (" ++ Text.intercalate ", " manifestFiles ++ ") in "
      ++ directory.text)))

/-- The path of a specifier in a project directory. -/
def moduleTarget (root : Path) (specifier : Text) : Path :=
  if specifier = "." || [.char '.', .char '/'].isPrefixOf specifier.toList then root.child specifier
  else (root.child packagesDirectory).child specifier

/-- **The export of a specifier in a project directory.** -/
def readModule (files : Files) (root : Path) (specifier : Text) : Except Fault Value := do
  let target := moduleTarget root specifier
  if ← (files.isDirectory target).mapError .access then files.readManifest target specifier
  else if ← (files.isFile target).mapError .access then files.readValue target
  else .error (.notFound specifier (some ("no such file or directory: " ++ target.text)))

end Files

/-- The loader of a project directory. -/
def Loader.directory (root : Path) : Loader Files where
  load specifier files := (files.readModule root specifier, files)
  bound files := files.root.size

end LintBundle
