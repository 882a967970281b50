import LintBundle.Module.Text
import LintBundle.Proofs.Merging
import LintBundle.Proofs.Remembering

/-!
# Proofs/Flattening — the rules of a bundle are a configuration with that bundle

    config ──bundle──▸ b ──flattened──▸ config' ──bundle──▸ b

A configuration and its bundle differ in two ways: rules are inherited, and values are normalized.
Neither makes a difference the second time.  A configuration that extends nothing has its own rules
as they are (`runIn_effectiveRules_of_noParents`), and bundling takes a normalized value for what it
was normalized from (`add_normalize`).  What remains is the session: the first run has learnt about
the configs it followed and the second has not, which does not show where the loader answers by a
function.
-/

namespace LintBundle

variable {σ : Type} {loader : Loader σ}

/-! ## Values that are normalized already -/

namespace Bundle

/-- **Bundling takes a normalized value for what it was normalized from.** -/
@[simp] theorem add_normalize (b : Bundle) (id value : Value) :
    b.add loader id (Severity.normalize value) = b.add loader id value := by
  rw [add, add, checkedValue, checkedValue, Severity.normalize_normalize]

@[simp] theorem ofRules_mapValues_normalize (rules : Ruleset) :
    ofRules loader (rules.mapValues Severity.normalize) = ofRules loader rules := by
  rw [ofRules, ofRules, Ruleset.mapValues, List.foldlM_map]
  simp only [add_normalize]

end Bundle

/-! ## Configurations that extend nothing -/

/-- A rule set is read back from its rules. -/
@[simp] theorem Ruleset.ofList_entries (rules : Ruleset) : ofList rules.entries = rules :=
  ext ((entries_ofList _).trans (merged_of_pairwise rules.distinct))

namespace Document

/-- **A configuration is read back from its data.** -/
@[simp] theorem ofValue_toValue (d : Document) : ofValue d.toValue = .ok d := by
  obtain ⟨rules, parents⟩ := d
  have hrules : ruleEntries (.map rules.entries) = .ok rules.entries := by
    rw [ruleEntries]
    split
    · rfl
    · rename_i hempty
      have hnil : rules.entries = [] := by simpa [Value.isGiven] using hempty
      rw [hnil]
  have hparts : ofValue (Document.mk rules parents).toValue
      = (ruleEntries (.map rules.entries) >>= fun entries => .ok ⟨.ofList entries, parents⟩) := by
    cases parents <;> rfl
  rw [hparts, hrules]
  exact congrArg (fun r => Except.ok (Document.mk r parents)) rules.ofList_entries

end Document

namespace Extends

/-- Where nothing is extended, nothing is asked for. -/
theorem runIn_effectiveRules_of_noParents (rules : Ruleset) (session : Session σ) :
    (effectiveRules loader ⟨rules, []⟩).runIn session = (.ok rules, session) := by
  change (Except.ok (Ruleset.ofList rules.entries), session) = _
  rw [rules.ofList_entries]

end Extends

namespace Bundle

open Session (Consistent)

/-! ## The rules of a bundle as a configuration -/

/-- **The rules of a bundle as a configuration**, which extends nothing. -/
def flattened (b : Bundle) : Value := (Document.mk b.rules []).toValue

/-- Bundling the flattened configuration is bundling the table. -/
theorem runIn_ofConfig_flattened (b : Bundle) (session : Session σ) :
    (ofConfig loader b.flattened).runIn session = (ofRules loader b.rules).runIn session := by
  have hread : Document.ofValue b.flattened = .ok ⟨b.rules, []⟩ := Document.ofValue_toValue _
  simp [ofConfig, hread, ofDocument, Extends.runIn_effectiveRules_of_noParents]

/-- What a configuration compiles to depends on its bundle alone. -/
theorem outcome_compile (config : Value) (session : Session σ) :
    ((compile loader config).runIn session).1
      = ((ofConfig loader config).runIn session).1 >>= moduleText defaultIndent := by
  rw [compile, Resolving.runIn_bind]
  rcases (ofConfig loader config).runIn session with ⟨fault | b, session'⟩
  · rfl
  · simp [bind, Except.bind]

/-- **The effective rules are a fixed point.**  Where a loader answers by a function, the rules of a
configuration's bundle, as a configuration that extends nothing, have this very bundle again, and
compile to what the configuration compiles to, whether that is a module or a fault. -/
theorem flattened_fixed {f : Text → Except Fault Value} {session session' : Session σ}
    (hs : Consistent loader f session) (hs' : Consistent loader f session') {config : Value}
    {b : Bundle} (h : ((ofConfig loader config).runIn session).1 = .ok b) :
    ((ofConfig loader b.flattened).runIn session').1 = .ok b ∧
      ((compile loader b.flattened).runIn session').1
        = ((compile loader config).runIn session).1 := by
  obtain ⟨document, inherited, session₁, -, hinherited, hrules⟩ := ofConfig_ok (Prod.ext h rfl)
  -- the rules are bundled only after configs were followed, which keeps the session consistent
  have hs₁ : Consistent loader f session₁ := by
    have := Operation.keeps_rulesOf (fun plugin => (Session.computes_manifest plugin).keeps)
      document.parents session hs
    rwa [hinherited] at this
  generalize hmerged : inherited.insertAll document.rules.entries = rules at hrules
  have hfixed : ((ofConfig loader b.flattened).runIn session').1 = .ok b := by
    rw [runIn_ofConfig_flattened, rules_eq_mapValues hrules, ofRules_mapValues_normalize,
      (computes_ofRules rules).outcome hs', ← (computes_ofRules rules).outcome hs₁, hrules]
  exact ⟨hfixed, by rw [outcome_compile, outcome_compile, hfixed, h]⟩

/-- A configuration that extends a plugin's, with a rule of its own that is off. -/
def extending : Value := .map
  [(.str "extends", .str "plugin:foo/base"),
    (.str "rules", .map [(.str "foo/s", .tuple [.str "off", .str "options"])])]

/-- Its bundle has an import, and so has that of the rules in it. -/
theorem flattened_fixed_extending :
    ∃ b, ((ofConfig .modules extending).runIn (Session.start Operation.onePlugin)).1 = .ok b ∧
      b.imports.length = 1 ∧ b.rules.size = 2 ∧
      ((ofConfig .modules b.flattened).runIn (Session.start Operation.onePlugin)).1 = .ok b := by
  have bundled : ((ofConfig .modules extending).runIn
      (Session.start Operation.onePlugin)).1.toOption.any
        (fun b => b.imports.length = 1 ∧ b.rules.size = 2) = true := by
    decide +kernel
  obtain ⟨b, session', hrun, hcounts⟩ := Resolving.runIn_of_any bundled
  have consistent := Consistent.start (Loader.OfTable.modules.settled Operation.onePlugin)
  have hb := congrArg Prod.fst hrun
  obtain ⟨himports, hrules⟩ := of_decide_eq_true hcounts
  exact ⟨b, hb, himports, hrules, (flattened_fixed consistent consistent hb).1⟩

end Bundle

end LintBundle
