import LintBundle.Extends
import LintBundle.Json.Basic
import LintBundle.Severity

/-!
# Bundle — which rules are imported, and under which names

The rules are gone through in order.  A rule that is on is imported once for each canonical id, and
the imports are numbered as they come.  A rule that is off stays in the table of rules, and nothing
else about it is looked at: neither its name nor its plugin.
-/

namespace LintBundle

/-- An import of a rule. -/
structure ImportRecord where
  identifier : Text
  path : Text
  canonicalId : Text
  deriving DecidableEq, Repr

/-- What a configuration is compiled to. -/
structure Bundle where
  /-- The imports, in the order of their numbers. -/
  imports : List ImportRecord
  /-- The identifier of each canonical id, in the same order. -/
  cache : List (Text × Text)
  /-- All rules with their normalized values. -/
  rules : Ruleset
  /-- The canonical id of each rule that is on. -/
  targets : List (Value × Text)

namespace Bundle

/-- The bundle without rules. -/
def empty : Bundle := ⟨[], [], {}, []⟩

instance : Inhabited Bundle := ⟨empty⟩

/-- The number of imports. -/
def enabledCount (b : Bundle) : Nat := b.imports.length

/-- The number of rules that are off. -/
def disabledCount (b : Bundle) : Nat :=
  (b.rules.entries.filter fun (_, value) => Severity.isDisabled value).length

/-- One line about a bundle. -/
def summary (b : Bundle) : Text :=
  "Bundled " ++ natText b.enabledCount ++ " rule import(s) for " ++ natText b.rules.size
    ++ " configured rule(s), " ++ natText b.disabledCount ++ " disabled"
where
  natText (n : Nat) : Text := .ofChars (decimalText n)

/-- The identifier of the import with a number. -/
def identifier (number : Nat) : Text := "rule_" ++ Text.ofChars (decimalText number)

/-- Whether a canonical id is imported. -/
def imports? (b : Bundle) (canonicalId : Text) : Bool :=
  b.cache.any fun (id, _) => id = canonicalId

/-- Adds a rule that is on, with an import unless its canonical id has one. -/
def addTarget (b : Bundle) (id : Value) (target : RuleTarget) : Bundle :=
  let b := { b with targets := b.targets ++ [(id, target.canonicalId)] }
  if b.imports? target.canonicalId then b
  else
    let name := identifier b.cache.length
    { b with
      cache := b.cache ++ [(target.canonicalId, name)]
      imports := b.imports ++ [⟨name, target.importPath, target.canonicalId⟩] }

/-- The normalized value of a rule, which needs a JSON form. -/
def checkedValue (id value : Value) : Except Fault Value :=
  let normalized := Severity.normalize value
  match Json.ofValue normalized with
  | .ok _ => .ok normalized
  | .error cause => .error (.showing id (.invalidRuleValue id.display cause.message))

variable {σ : Type} (loader : Loader σ)

/-- Adds a rule. -/
def add (b : Bundle) (id value : Value) : Resolving σ Bundle := do
  let normalized ← MonadExcept.ofExcept (checkedValue id value)
  let b := { b with rules := b.rules.insert id normalized }
  if Severity.isDisabled normalized then return b
  else return b.addTarget id (← Session.ruleTarget loader id)

/-- **The bundle of a rule set.** -/
def ofRules (rules : Ruleset) : Resolving σ Bundle :=
  rules.entries.foldlM (fun b (id, value) => b.add loader id value) empty

/-- **The bundle of a configuration.** -/
def ofDocument (document : Document) : Resolving σ Bundle := do
  ofRules loader (← Extends.effectiveRules loader document)

/-- The bundle of a configuration given as data. -/
def ofConfig (config : Value) : Resolving σ Bundle :=
  match Document.ofValue config with
  | .ok document => ofDocument loader document
  | .error cause => throw (.document cause)

end Bundle

end LintBundle
