import LintBundle.Fault

/-!
# Plugin/Manifest — what a plugin exports

A plugin exports its rules, each by the path it is imported from, and named configs.  The export is
a mapping or an object; what is not a mapping where one is expected counts as empty.
-/

namespace LintBundle

namespace Value

/-- The field of a mapping or of an object. -/
def field? (name : Text) (v : Value) : Option Value :=
  match v.opened with
  | map entries => valueAt? name entries
  | object attributes => (attributes.find? fun (n, _) => (n : Text) = name).map Prod.snd
  | document rules parents =>
    if name = "rules" then some (.map rules)
    else if name = "extends" then some (.tuple parents)
    else none
  | _ => none

/-- The entries of a field that is a mapping. -/
def fieldEntries (name : Text) (v : Value) : List (Value × Value) :=
  ((v.field? name).bind entries?).getD []

end Value

/-- The rules and the named configs of a plugin. -/
structure Manifest where
  rules : List (Value × Value)
  configs : List (Value × Value)

namespace Manifest

/-- The manifest of a plugin that exports nothing. -/
def empty : Manifest := ⟨[], []⟩

instance : Inhabited Manifest := ⟨empty⟩

/-- **The manifest an export is read as.** -/
def ofValue (exported : Value) : Manifest :=
  ⟨exported.fieldEntries "rules", exported.fieldEntries "configs"⟩

/-- The export of a rule. -/
def rule? (m : Manifest) (name : Text) : Option Value := Value.valueAt? name m.rules

/-- A named config; one that is `null` is not there. -/
def config? (m : Manifest) (name : Text) : Option Value :=
  match Value.valueAt? name m.configs with
  | some .null => none
  | found => found

end Manifest

end LintBundle
