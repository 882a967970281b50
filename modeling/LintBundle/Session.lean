import LintBundle.Document
import LintBundle.Loader.Basic
import LintBundle.Plugin.Manifest

/-!
# Session — plugins as one run sees them

A session asks a loader for plugins and remembers what it got: the manifest of a package, once
loaded, and the name of the package being compiled, once read.  What fails is not remembered, so
it is asked for again.  A failure leaves the session as it is by then.
-/

namespace LintBundle

/-- The specifier of the package being compiled. -/
def packageRoot : Text := "."

/-- The specifier of the file that names the package being compiled. -/
def packageFile : Text := "./package.json"

/-- What a run has learnt so far, in a world. -/
structure Session (σ : Type) where
  manifests : List (Text × Manifest)
  localPackage : Option Text
  world : σ

/-- The session of a run that begins in a world. -/
def Session.start {σ : Type} (world : σ) : Session σ := ⟨[], none, world⟩

/-- A step of a run. -/
abbrev Resolving (σ : Type) := ExceptT Fault (StateM (Session σ))

/-- An import path, and the id under which a rule is imported once. -/
structure RuleTarget where
  importPath : Text
  canonicalId : Text
  deriving DecidableEq, Repr

namespace Session

variable {σ : Type} (loader : Loader σ)

/-- Asks the loader. -/
def require (specifier : Text) : Resolving σ Value := do
  let session ← get
  let (answer, world) := loader.load specifier session.world
  set { session with world := world }
  MonadExcept.ofExcept answer

/-- What the loader is asked for to load a plugin. -/
def specifier (plugin : PluginRef) : Text :=
  if plugin.isLocal then packageRoot else plugin.packageName

/-! ## Packages -/

/-- The name a package file declares. -/
def declaredName (exported : Value) : Except Fault Text :=
  match exported.field? "name" with
  | some (.str name) =>
    if name = "" then .error (.notFound packageFile "package manifest declares no name")
    else .ok name
  | _ => .error (.notFound packageFile "package manifest declares no name")

/-- **The package of a plugin**; of the local plugin, the name its package file declares. -/
def packageName (plugin : PluginRef) : Resolving σ Text := do
  if plugin.isLocal then
    match (← get).localPackage with
    | some name => return name
    | none =>
      let name ← MonadExcept.ofExcept (declaredName (← require loader packageFile))
      modify fun session => { session with localPackage := some name }
      return name
  else return plugin.packageName

/-! ## Manifests -/

/-- The manifest remembered for a specifier. -/
def known? (session : Session σ) (specifier : Text) : Option Manifest :=
  (session.manifests.find? fun (name, _) => name = specifier).map Prod.snd

/-- **The manifest of a plugin.** -/
def manifest (plugin : PluginRef) : Resolving σ Manifest := do
  match (← get).known? (specifier plugin) with
  | some known => return known
  | none =>
    let loaded := Manifest.ofValue (← require loader (specifier plugin))
    modify fun session =>
      { session with manifests := (specifier plugin, loaded) :: session.manifests }
    return loaded

/-- The configuration a manifest has under a name. -/
def namedConfig (m : Manifest) (specifier name : Text) : Except Fault Document :=
  match m.config? name with
  | none => .error (.configNotFound name specifier)
  | some v =>
    match Document.ofValue v with
    | .ok document => .ok document
    | .error cause => .error (.malformedConfig name specifier cause.message)

/-- **A named config of a plugin.** -/
def config (plugin : PluginRef) (name : Text) : Resolving σ Document := do
  let found ← manifest loader plugin
  MonadExcept.ofExcept (namedConfig found (specifier plugin) name)

/-! ## Rules -/

/-- The manifest of a plugin, or an empty one if the plugin is not found. -/
def manifestOrEmpty (plugin : PluginRef) : Resolving σ Manifest :=
  tryCatch (manifest loader plugin) fun
    | .notFound .. => return .empty
    | fault => throw fault

/-- The path of a rule in its package: the exported one without `./` in front, or else the
conventional one. -/
def rulePath (m : Manifest) (specifier name : Text) : Except Fault Text :=
  match m.rule? name with
  | none => .ok ("rules/" ++ name)
  | some (.str path) =>
    .ok (if [.char '.', .char '/'].isPrefixOf path.toList then Text.ofList (path.toList.drop 2)
      else path)
  | some _ => .error (.illegalRuleExport name specifier)

/-- **Where a rule is imported from**, and under which id. -/
def ruleTarget (id : Value) : Resolving σ RuleTarget := do
  let rule ← MonadExcept.ofExcept (Naming.rule id)
  let package ← packageName loader rule.plugin
  let found ← manifestOrEmpty loader rule.plugin
  let path ← MonadExcept.ofExcept (rulePath found (specifier rule.plugin) rule.name)
  return {
    importPath := (if rule.plugin.isLocal then "." else package : Text) ++ "/" ++ path
    canonicalId := package ++ "/" ++ rule.name }

end Session

end LintBundle
