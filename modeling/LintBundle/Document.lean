import LintBundle.Fault
import LintBundle.Ruleset

/-!
# Document — a lint configuration

A configuration has rules of its own and extends other configurations, in order.  It is read from
loosely typed data: a missing part is empty, and a single reference stands for a list of one.
-/

namespace LintBundle

/-- A lint configuration: its own rules, and references to the configs it extends. -/
structure Document where
  rules : Ruleset
  parents : List Value

namespace Document

/-- The configuration without rules. -/
def empty : Document := ⟨{}, []⟩

instance : Inhabited Document := ⟨empty⟩

/-- The references of an `extends` entry, in order. -/
def references : Value → Except DocumentFault (List Value)
  | .null => .ok []
  | .str s => .ok [.str s]
  | v => (v.elements?).elim (.error (.extendsNotIterable v.kind)) .ok

/-- The rules of a `rules` entry; what counts as not given has none. -/
def ruleEntries (v : Value) : Except DocumentFault (List (Value × Value)) :=
  if v.isGiven then (v.entries?).elim (.error (.rulesNotMapping v.kind)) .ok else .ok []

/-- **The configuration that data describes.** -/
def ofValue (v : Value) : Except DocumentFault Document :=
  match v with
  | .null => .ok empty
  | .document rules parents => .ok ⟨.ofList rules, parents⟩
  | v =>
    match v.entries? with
    | none => .error (.notMapping v.kind)
    | some entries => do
      let rules ← ruleEntries ((Value.valueAt? "rules" entries).getD .null)
      let parents ← references ((Value.valueAt? "extends" entries).getD .null)
      return ⟨.ofList rules, parents⟩

/-- A configuration as data; references only where there are any. -/
def toValue (d : Document) : Value :=
  let rules := (Value.str "rules", Value.map d.rules.entries)
  if d.parents.isEmpty then .map [rules] else .map [(.str "extends", .list d.parents), rules]

end Document

end LintBundle
