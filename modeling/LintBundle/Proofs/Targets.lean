import LintBundle.Proofs.Bundling
import LintBundle.Proofs.Chaining

/-!
# Proofs/Targets — where rules are imported from, as a function serves their plugins

    id ──Naming.rule──▸ rule ──packageBy, manifestBy──▸ import path, canonical id

Besides manifests, a session remembers the name of the package being compiled.  Where both are what
a function answers (`Consistent`), packages, targets and whole bundles are computed without a
session (`packageBy`, `targetBy`, `bundleBy`); a rule set is bundled exactly where each of its rules
is acceptable by itself (`bundleBy_ok_iff`).
-/

namespace LintBundle

variable {σ : Type} {loader : Loader σ} {f : Text → Except Fault Value}

open Resolving (Computes)

namespace Session

/-! ## Sessions and packages -/

/-- The name of the package being compiled, as a function serves its package file. -/
def localNameBy (f : Text → Except Fault Value) : Except Fault Text := do
  declaredName (← f packageFile)

/-- **A session that remembers nothing but what a function answers**, manifests and the name of the
package being compiled. -/
structure Consistent (loader : Loader σ) (f : Text → Except Fault Value) (session : Session σ) :
    Prop extends Faithful loader f session where
  package : ∀ name, session.localPackage = some name → localNameBy f = .ok name

/-- A run that begins in an unchanging world remembers no name yet. -/
theorem Consistent.start {world : σ} (h : loader.Answers f world) :
    Consistent loader f (Session.start world) where
  toFaithful := Faithful.start h
  package := by simp [Session.start]

/-- A manifest says nothing about the package being compiled. -/
theorem localPackage_manifest (plugin : PluginRef) (session : Session σ) :
    ((manifest loader plugin).runIn session).2.localPackage = session.localPackage := by
  cases hk : session.known? (specifier plugin) with
  | some m => rw [manifest_known hk]
  | none =>
    rcases hload : loader.load (specifier plugin) session.world with ⟨fault | v, world⟩
    · rw [manifest_failed hk hload]
    · rw [manifest_loaded hk hload]

theorem computes_manifest (plugin : PluginRef) :
    Computes (Consistent loader f) (manifest loader plugin)
      (manifestBy f (specifier plugin)) := by
  intro session h
  obtain ⟨session', hrun, hf⟩ := follows_manifest plugin session h.toFaithful
  have hname : ((manifest loader plugin).runIn session).2.localPackage = session.localPackage :=
    localPackage_manifest plugin session
  rw [hrun] at hname
  exact ⟨session', hrun, hf, fun name hn => h.package name (hname ▸ hn)⟩

/-- **A named config is what the loader's function says.** -/
theorem computes_config (plugin : PluginRef) (name : Text) :
    Computes (Consistent loader f) (config loader plugin name)
      (do namedConfig (← manifestBy f (specifier plugin)) (specifier plugin) name) :=
  Computes.bind (computes_manifest plugin) fun found =>
    Computes.ofExcept (namedConfig found (specifier plugin) name)

/-- The package of a plugin, as a function serves the package file. -/
def packageBy (f : Text → Except Fault Value) (plugin : PluginRef) : Except Fault Text :=
  if plugin.isLocal then localNameBy f else .ok plugin.packageName

/-- **A package is what the loader's function says**, remembered or not. -/
theorem computes_packageName (plugin : PluginRef) :
    Computes (Consistent loader f) (packageName loader plugin) (packageBy f plugin) := by
  intro session h
  rw [packageBy]
  cases hl : plugin.isLocal with
  | false => exact ⟨session, packageName_of_not_isLocal hl, h⟩
  | true =>
    cases hk : session.localPackage with
    | some name =>
      refine ⟨session, ?_, h⟩
      rw [packageName_known hl hk, if_pos rfl, h.package name hk]
    | none =>
      obtain ⟨answers, manifests⟩ := h.toFaithful
      generalize hw : (loader.load packageFile session.world).2 = world
      have hload : loader.load packageFile session.world = (f packageFile, world) :=
        Prod.ext (answers.load packageFile) hw
      have answers' : loader.Answers f world := hw ▸ answers.next packageFile
      cases hname : f packageFile >>= declaredName with
      | error fault =>
        refine ⟨{ session with world := world }, ?_, ⟨answers', manifests⟩, h.package⟩
        rw [packageName_failed hl hk hload hname, if_pos rfl, ← hname]
        rfl
      | ok name =>
        refine ⟨{ session with world := world, localPackage := some name }, ?_,
          ⟨answers', manifests⟩, fun name' hn => ?_⟩
        · rw [packageName_declared hl hk hload hname, if_pos rfl, ← hname]
          rfl
        · obtain rfl : name = name' := Option.some.inj hn
          exact hname

/-! ## Targets -/

/-- A manifest, or an empty one where the plugin is not found. -/
def orEmpty : Except Fault Manifest → Except Fault Manifest
  | .error (.notFound ..) => .ok .empty
  | answer => answer

theorem computes_manifestOrEmpty (plugin : PluginRef) :
    Computes (Consistent loader f) (manifestOrEmpty loader plugin)
      (orEmpty (manifestBy f (specifier plugin))) := by
  intro session h
  obtain ⟨session', hrun, h'⟩ := computes_manifest plugin session h
  refine ⟨session', ?_, h'⟩
  rw [manifestOrEmpty, Resolving.runIn_tryCatch, hrun]
  cases manifestBy f (specifier plugin) with
  | ok m => rfl
  | error fault => cases fault <;> rfl

/-- Where a rule is imported from, as a function serves its plugin. -/
def targetOf (f : Text → Except Fault Value) (rule : RuleName) : Except Fault RuleTarget := do
  let package ← packageBy f rule.plugin
  let found ← orEmpty (manifestBy f (specifier rule.plugin))
  let path ← rulePath found (specifier rule.plugin) rule.name
  return {
    importPath := (if rule.plugin.isLocal then "." else package : Text) ++ "/" ++ path
    canonicalId := package ++ "/" ++ rule.name }

/-- Where the rule of an id is imported from. -/
def targetBy (f : Text → Except Fault Value) (id : Value) : Except Fault RuleTarget := do
  targetOf f (← Naming.rule id)

/-- **A target is what the loader's function says.** -/
theorem computes_ruleTarget (id : Value) :
    Computes (Consistent loader f) (ruleTarget loader id) (targetBy f id) := by
  refine Computes.bind (Computes.ofExcept _) fun rule => ?_
  refine Computes.bind (computes_packageName rule.plugin) fun package => ?_
  refine Computes.bind (computes_manifestOrEmpty rule.plugin) fun found => ?_
  exact Computes.bind (Computes.ofExcept _) fun path => Computes.pure _

/-- A target that is found is the target of a rule. -/
theorem targetBy_eq_ok {id : Value} {target : RuleTarget} (h : targetBy f id = .ok target) :
    ∃ rule, Naming.rule id = .ok rule ∧ targetOf f rule = .ok target := by
  rw [targetBy] at h
  exact bind_eq_ok_iff.1 h

/-- **A rule's canonical id is its name behind the name of its package.** -/
theorem canonicalId_of_targetOf {rule : RuleName} {target : RuleTarget}
    (h : targetOf f rule = .ok target) :
    ∃ package, packageBy f rule.plugin = .ok package ∧
      target.canonicalId = package ++ "/" ++ rule.name := by
  rw [targetOf] at h
  obtain ⟨package, hpackage, h⟩ := bind_eq_ok_iff.1 h
  obtain ⟨manifest, -, h⟩ := bind_eq_ok_iff.1 h
  obtain ⟨path, -, h⟩ := bind_eq_ok_iff.1 h
  cases h
  exact ⟨package, hpackage, rfl⟩

end Session

/-! ## Bundles -/

namespace Bundle

open Session (targetBy)

/-- A bundle with a rule more, as a function serves the rule's plugin. -/
def addBy (f : Text → Except Fault Value) (b : Bundle) (id value : Value) :
    Except Fault Bundle := do
  let normalized ← checkedValue id value
  let b := { b with rules := b.rules.insert id normalized }
  if Severity.isDisabled normalized then return b
  else return b.addTarget id (← targetBy f id)

/-- A value without a JSON form is refused. -/
theorem addBy_of_unshown (b : Bundle) {id value : Value} {cause : JsonFault}
    (h : Json.ofValue (Severity.normalize value) = .error cause) :
    addBy f b id value = .error (.showing id (.invalidRuleValue id.display cause.message)) := by
  simp only [addBy, checkedValue, h]
  rfl

/-- A rule that is off adds its value. -/
theorem addBy_of_disabled (b : Bundle) {id value : Value}
    (shown : ∃ j, Json.ofValue (Severity.normalize value) = .ok j)
    (hoff : Severity.isDisabled value = true) :
    addBy f b id value = .ok { b with rules := b.rules.insert id (Severity.normalize value) } := by
  simp only [addBy, checkedValue_of_shown shown, bind, Except.bind, Severity.isDisabled_normalize,
    hoff, if_true]
  rfl

/-- A rule that is on adds its value and its target. -/
theorem addBy_of_enabled (b : Bundle) {id value : Value}
    (shown : ∃ j, Json.ofValue (Severity.normalize value) = .ok j)
    (hon : Severity.isDisabled value = false) :
    addBy f b id value = do
      return addTarget { b with rules := b.rules.insert id (Severity.normalize value) } id
        (← targetBy f id) := by
  simp only [addBy, checkedValue_of_shown shown, bind, Except.bind, Severity.isDisabled_normalize,
    hon, Bool.false_eq_true, if_false]

/-- The bundle of a rule set, as a function serves the plugins. -/
def bundleBy (f : Text → Except Fault Value) (rules : Ruleset) : Except Fault Bundle :=
  rules.entries.foldlM (fun b (id, value) => addBy f b id value) empty

theorem computes_add (b : Bundle) (id value : Value) :
    Computes (Session.Consistent loader f) (b.add loader id value) (addBy f b id value) := by
  refine Computes.bind (Computes.ofExcept _) fun normalized => ?_
  refine Computes.ite (Computes.pure _) ?_
  exact Computes.bind (Session.computes_ruleTarget id) fun target => Computes.pure _

/-- **A bundle is what the loader's function says.** -/
theorem computes_ofRules (rules : Ruleset) :
    Computes (Session.Consistent loader f) (ofRules loader rules) (bundleBy f rules) := by
  rw [ofRules, bundleBy]
  refine Computes.foldlM (fun b e => ?_) empty rules.entries
  exact computes_add b e.1 e.2

/-! ## Rules that can be bundled -/

/-- **A rule that can be bundled**: its value has a JSON form and, if it is on, its target is
found. -/
structure Acceptable (f : Text → Except Fault Value) (e : Value × Value) : Prop where
  shown : ∃ j, Json.ofValue (Severity.normalize e.2) = .ok j
  found : Severity.isDisabled e.2 = false → ∃ target, targetBy f e.1 = .ok target

/-- What a bundle holds already does not matter for a rule more. -/
theorem addBy_ok_iff (b : Bundle) (e : Value × Value) :
    (∃ b', addBy f b e.1 e.2 = .ok b') ↔ Acceptable f e := by
  cases hj : Json.ofValue (Severity.normalize e.2) with
  | error cause =>
    rw [addBy_of_unshown b hj]
    refine iff_of_false (by simp) fun hok => ?_
    obtain ⟨j, hj'⟩ := hok.shown
    cases hj.symm.trans hj'
  | ok j =>
    cases hon : Severity.isDisabled e.2 with
    | true =>
      rw [addBy_of_disabled b ⟨j, hj⟩ hon]
      exact iff_of_true ⟨_, rfl⟩ ⟨⟨j, hj⟩, fun hno => by cases hon.symm.trans hno⟩
    | false =>
      rw [addBy_of_enabled b ⟨j, hj⟩ hon]
      refine ⟨fun ⟨b', h⟩ => ⟨⟨j, hj⟩, fun _ => ?_⟩, fun hok => ?_⟩
      · cases ht : targetBy f e.1 with
        | error fault => rw [ht] at h; cases h
        | ok target => exact ⟨target, rfl⟩
      · obtain ⟨target, ht⟩ := hok.found hon
        rw [ht]
        exact ⟨_, rfl⟩

/-- **A rule set is bundled exactly where each of its rules can be.** -/
theorem bundleBy_ok_iff (rules : Ruleset) :
    (∃ b, bundleBy f rules = .ok b) ↔ ∀ e ∈ rules.entries, Acceptable f e :=
  foldlM_ok_iff addBy_ok_iff empty rules.entries

end Bundle

end LintBundle
