import LintBundle.Session

/-!
# Extends — the rules of the configs that a configuration extends

References are gone through in order, and a config's own parents before its rules, so a rule set
later or nearer has the last word.  The rules of a plugin's config are addressed by that plugin's
name from outside.  A config that is met again while it is being expanded closes a circle, whatever
spelling of its plugin the reference uses.
-/

namespace LintBundle

/-- A config by what it is loaded from. -/
structure ConfigKey where
  specifier : Text
  config : Text
  deriving DecidableEq, Repr

/-- A config being expanded, and the reference that led to it. -/
structure Link where
  key : ConfigKey
  reference : Text
  deriving DecidableEq, Repr

namespace Extends

open Session (specifier)

variable {σ : Type} (loader : Loader σ)

/-- The key of the config a reference names. -/
def keyOf (found : ConfigRef) : ConfigKey := ⟨specifier found.plugin, found.config⟩

/-- Inserts the rules of a plugin's config under the ids they have from outside. -/
def insertQualified (plugin : PluginRef) (rules : Ruleset) (entries : List (Value × Value)) :
    Except Fault Ruleset :=
  entries.foldlM (fun rules (id, value) => do
    return rules.insert (.str (← Naming.qualify plugin id)) value) rules

/-- **The rules of referenced configs.**  The chain holds the configs being expanded, the outermost
first; `depth` bounds how many more may follow. -/
def expand : Nat → List Link → List Value → Resolving σ Ruleset
  | 0, _, references => if references.isEmpty then return {} else throw .tooDeep
  | depth + 1, chain, references =>
    references.foldlM (fun rules reference => do
      let found ← MonadExcept.ofExcept (Naming.config reference)
      if chain.any fun link => link.key = keyOf found then
        throw (.circularExtends (chain.map Link.reference ++ [reference.display]))
      let document ← Session.config loader found.plugin found.config
      let inherited ← expand depth (chain ++ [⟨keyOf found, reference.display⟩]) document.parents
      MonadExcept.ofExcept
        (insertQualified found.plugin (rules.insertAll inherited.entries) document.rules.entries))
      {}

/-- A number no less than that of the named configs a session can meet: those it remembers and
those the loader serves. -/
def configBound (session : Session σ) : Nat :=
  session.manifests.foldr (fun (_, m) total => m.configs.length + total)
    (loader.bound session.world)

/-- The rules of referenced configs, as deep as configs can follow each other. -/
def rulesOf (references : List Value) : Resolving σ Ruleset := do
  expand loader (configBound loader (← get) + 1) [] references

/-- The rules of an `extends` entry. -/
def rulesOfEntry (entry : Value) : Resolving σ Ruleset :=
  match Document.references entry with
  | .ok references => rulesOf loader references
  | .error cause => throw (.document cause)

/-- **The effective rules of a configuration**: those it inherits, then its own. -/
def effectiveRules (document : Document) : Resolving σ Ruleset := do
  return (← rulesOf loader document.parents).insertAll document.rules.entries

end Extends

end LintBundle
