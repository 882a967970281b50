import LintBundle.Proofs.Bundling
import LintBundle.Proofs.Noting

/-!
# Proofs/Inertness — rules that are off do nothing

Rules of which some that are off are left out, or turned off in another way (`Trimmed`), are bundled
as the rules are: the run comes to the same imports and leaves the same session, whatever the loader
(`ofRules_trimmed`).  That it asks for the same specifiers in the same order is this very fact about
the noted loader.
-/

namespace LintBundle

namespace Bundle

variable {σ : Type} {loader : Loader σ}

/-- Trimmed rules are bundled where the rules are, and leave the same session. -/
theorem ofRules_trimmed {rules rules' : Ruleset} (h : Trimmed rules.entries rules'.entries)
    {b : Bundle} {session session' : Session σ}
    (hrun : (ofRules loader rules).runIn session = (.ok b, session')) :
    ∃ b', (ofRules loader rules').runIn session = (.ok b', session') ∧ SameImports b b' :=
  foldlM_add_trimmed h ⟨rfl, rfl, rfl⟩ hrun

/-- **Trimming makes no request more or less.** -/
theorem requests_trimmed {rules rules' : Ruleset} (h : Trimmed rules.entries rules'.entries)
    {b : Bundle} {session session' : Session σ}
    (hrun : (ofRules loader rules).runIn session = (.ok b, session')) :
    requests loader rules' session = requests loader rules session := by
  have hnoted := runIn_noted loader rules session
  rw [hrun] at hnoted
  obtain ⟨b', hnoted', -⟩ := ofRules_trimmed h hnoted
  rw [requests, hnoted']
  rfl

/-- **Rules that are off are inert.**  Where bundling a rule set succeeds, so does bundling it with
any of the rules that are off left out, or turned off by other values with a JSON form.  The two
bundles have the same imports, cache and targets, their tables are the two rule sets with their
values normalized, and the loader is asked for the same specifiers in the same order and left in the
same world. -/
theorem disabled_inert {rules rules' : Ruleset} (h : Trimmed rules.entries rules'.entries)
    {b : Bundle} {session session' : Session σ}
    (hrun : (ofRules loader rules).runIn session = (.ok b, session')) :
    ∃ b', (ofRules loader rules').runIn session = (.ok b', session') ∧ SameImports b b' ∧
      b.rules = rules.mapValues Severity.normalize ∧
      b'.rules = rules'.mapValues Severity.normalize ∧
      requests loader rules' session = requests loader rules session := by
  obtain ⟨b', hrun', hsame⟩ := ofRules_trimmed h hrun
  exact ⟨b', hrun', hsame, rules_eq_mapValues hrun, rules_eq_mapValues hrun',
    requests_trimmed h hrun⟩

/-- Two rules that are on, and between them one with an id that is none and one without a plugin. -/
def inertRules : Ruleset := .ofList
  [(.str "bpmnlint/global", .str "warn"), (.int 7, .list []), (.str "@/", .str "off"),
    (.str "missing/rule", .int 2)]

/-- These rules without the first that is off, and with options for the other. -/
def trimmedRules : Ruleset := .ofList
  [(.str "bpmnlint/global", .str "warn"), (.str "@/", .tuple [.int 0, .str "options"]),
    (.str "missing/rule", .int 2)]

/-- Neither the rule that is left out nor the one with options changes what is imported; what is
asked for are the plugins of the two rules that are on. -/
theorem disabled_inert_inertRules :
    ∃ b b' session', (ofRules (Loader.builtin none) inertRules).runIn (Session.start ())
        = (.ok b, session') ∧
      (ofRules (Loader.builtin none) trimmedRules).runIn (Session.start ()) = (.ok b', session') ∧
      b'.imports = b.imports ∧ b.imports.length = 2 ∧
      requests (Loader.builtin none) trimmedRules (Session.start ())
        = (["bpmnlint", "bpmnlint-plugin-missing"] : List Text) := by
  have trimmed : Trimmed inertRules.entries trimmedRules.entries := by
    have shown : ∃ j, Json.ofValue (.tuple [.int 0, .str "options"]) = .ok j := ⟨_, rfl⟩
    exact .keep _ (.leaveOut rfl (.revalue rfl rfl shown (.keep _ .nil)))
  have bundled : ((ofRules (Loader.builtin none) inertRules).runIn
      (Session.start ())).1.toOption.any (fun b => b.imports.length = 2) = true := by
    decide +kernel
  obtain ⟨b, session', hrun, hlength⟩ := Resolving.runIn_of_any bundled
  obtain ⟨b', hrun', hsame, -, -, hrequests⟩ := disabled_inert trimmed hrun
  refine ⟨b, b', session', hrun, hrun', hsame.imports.symm, of_decide_eq_true hlength, ?_⟩
  rw [hrequests]
  decide +kernel

end Bundle

end LintBundle
