import LintBundle.Proofs.Noting
import LintBundle.Proofs.Descending
import LintBundle.Proofs.Targets

/-!
# Proofs/Isolation — a configuration of built-in rules asks nobody else

    references, ids ──Naming──▸ the built-in plugin ──▸ one specifier, served by the package

A loader behind the built-in package is asked for every other specifier, and for this one never.
So a session that has met nothing but the built-in package, in the world it began in (`Untouched`),
stays so through every step that is about the built-in plugin, and the step computes what the
built-in package alone answers (`Builtin.answer`).  What the shipped configs extend and turn on is
built-in again (`Builtin.served_isBuiltin`), which carries this through a whole expansion.
-/

namespace LintBundle

variable {σ : Type} {world : σ} {plugin : PluginRef}

open Resolving (Computes)

/-- What the built-in package answers without a loader behind it. -/
def Builtin.answer : Text → Except Fault Value :=
  (Loader.builtin none : Loader Modules).answer ⟨[], []⟩

/-- **A session that has met nothing but the built-in package**, in the world it began in. -/
structure Session.Untouched (world : σ) (session : Session σ) : Prop where
  world : session.world = world
  manifests : ∀ e ∈ session.manifests, Session.manifestBy Builtin.answer e.1 = .ok e.2

/-- A reference that names a config of the built-in plugin, if it names any. -/
def Naming.IsBuiltinReference (reference : Value) : Prop :=
  ∀ found, Naming.config reference = .ok found → found.plugin.isBuiltin = true

/-- An id that names a rule of the built-in plugin, if it names any. -/
def Naming.IsBuiltinId (id : Value) : Prop :=
  ∀ rule, Naming.rule id = .ok rule → rule.plugin.isBuiltin = true

open Naming (IsBuiltinReference IsBuiltinId)

instance (reference : Value) : Decidable (IsBuiltinReference reference) :=
  decidable_of_iff ((Naming.config reference).toOption.all (·.plugin.isBuiltin) = true) <| by
    cases h : Naming.config reference <;> simp [IsBuiltinReference, h, Except.toOption]

instance (id : Value) : Decidable (IsBuiltinId id) :=
  decidable_of_iff ((Naming.rule id).toOption.all (·.plugin.isBuiltin) = true) <| by
    cases h : Naming.rule id <;> simp [IsBuiltinId, h, Except.toOption]

/-- The ids after an insertion were there before, or are inserted. -/
theorem Ruleset.key_of_mem_insertAll {rules : Ruleset} {l : List (Value × Value)}
    {e : Value × Value} (h : e ∈ (rules.insertAll l).entries) :
    (∃ e' ∈ rules.entries, e'.1 = e.1) ∨ ∃ e' ∈ l, e'.1 = e.1 := by
  induction l generalizing rules with
  | nil => exact .inl ⟨e, h, rfl⟩
  | cons a l ih =>
    have hrest : e ∈ ((rules.insert a.1 a.2).insertAll l).entries := h
    rcases ih hrest with ⟨e', he', heq⟩ | ⟨e', he', heq⟩
    · rcases key_of_mem_put he' with hk | ⟨e'', he'', heq'⟩
      · exact .inr ⟨a, List.mem_cons_self .., hk.symm.trans heq⟩
      · exact .inl ⟨e'', he'', heq'.trans heq⟩
    · exact .inr ⟨e', List.mem_cons_of_mem _ he', heq⟩

/-! ## The built-in plugin -/

theorem PluginRef.not_isLocal_of_isBuiltin (h : plugin.isBuiltin = true) :
    plugin.isLocal = false := by
  simp only [isBuiltin, Bool.and_eq_true, decide_eq_true_eq] at h
  simp only [isLocal, h.2, Bool.and_eq_false_iff]
  exact .inr (by decide)

theorem PluginRef.specifier_of_isBuiltin (h : plugin.isBuiltin = true) :
    Session.specifier plugin = builtinPackage := by
  simp [Session.specifier, not_isLocal_of_isBuiltin h, packageName, h]

namespace Session

theorem Untouched.start (world : σ) : Untouched world (Session.start world) where
  world := rfl
  manifests := by simp [Session.start]

/-- **The manifest of the built-in plugin** is found without the loader behind. -/
theorem computes_manifest_of_isBuiltin (fallback : Option (Loader σ))
    (h : plugin.isBuiltin = true) :
    Computes (Untouched world) (manifest (.builtin fallback) plugin)
      (manifestBy Builtin.answer (specifier plugin)) := by
  intro session hs
  have hspecifier := PluginRef.specifier_of_isBuiltin h
  have hanswer : manifestBy Builtin.answer (specifier plugin)
      = .ok (Manifest.ofValue Builtin.manifest) := by rw [hspecifier]; rfl
  cases hk : session.known? (specifier plugin) with
  | some known =>
    obtain ⟨e, he, rfl⟩ := Option.map_eq_some_iff.1 hk
    have hname : e.1 = specifier plugin := by simpa using List.find?_some he
    refine ⟨session, ?_, hs⟩
    rw [manifest_known hk, ← hname, hs.manifests e (List.mem_of_find?_eq_some he)]
  | none =>
    have hload : (Loader.builtin fallback).load (specifier plugin) session.world
        = (.ok Builtin.manifest, session.world) := by rw [hspecifier]; rfl
    have hrun := manifest_loaded hk hload
    rw [← hanswer] at hrun
    refine ⟨_, hrun, hs.world, ?_⟩
    intro e he
    rcases List.mem_cons.1 he with rfl | he
    · exact hanswer
    · exact hs.manifests e he

theorem computes_config_of_isBuiltin (fallback : Option (Loader σ)) (h : plugin.isBuiltin = true)
    (name : Text) :
    Computes (Untouched world) (config (.builtin fallback) plugin name)
      (Extends.served Builtin.answer ⟨specifier plugin, name⟩) :=
  Computes.bind (computes_manifest_of_isBuiltin fallback h) fun found =>
    Computes.ofExcept (namedConfig found (specifier plugin) name)

theorem computes_packageName_of_isBuiltin (fallback : Option (Loader σ))
    (h : plugin.isBuiltin = true) :
    Computes (Untouched world) (packageName (.builtin fallback) plugin)
      (packageBy Builtin.answer plugin) := by
  have hl := PluginRef.not_isLocal_of_isBuiltin h
  intro session hs
  refine ⟨session, ?_, hs⟩
  rw [packageName_of_not_isLocal hl, packageBy, if_neg (by simp [hl])]

theorem computes_manifestOrEmpty_of_isBuiltin (fallback : Option (Loader σ))
    (h : plugin.isBuiltin = true) :
    Computes (Untouched world) (manifestOrEmpty (.builtin fallback) plugin)
      (orEmpty (manifestBy Builtin.answer (specifier plugin))) := by
  intro session hs
  obtain ⟨session', hrun, hs'⟩ := computes_manifest_of_isBuiltin fallback h session hs
  refine ⟨session', ?_, hs'⟩
  rw [manifestOrEmpty, Resolving.runIn_tryCatch, hrun, PluginRef.specifier_of_isBuiltin h]
  rfl

/-- **The target of an id** that names a built-in rule, or none. -/
theorem computes_ruleTarget_of_isBuiltin (fallback : Option (Loader σ)) {id : Value}
    (h : IsBuiltinId id) :
    Computes (Untouched world) (ruleTarget (.builtin fallback) id)
      (targetBy Builtin.answer id) := by
  refine Computes.bind_of_ok (Computes.ofExcept _) fun rule hrule => ?_
  have hb := h rule hrule
  refine Computes.bind (computes_packageName_of_isBuiltin fallback hb) fun package => ?_
  refine Computes.bind (computes_manifestOrEmpty_of_isBuiltin fallback hb) fun found => ?_
  exact Computes.bind (Computes.ofExcept _) fun path => Computes.pure _

end Session

/-! ## The shipped configs -/

/-- The configs of the built-in package, as they are read. -/
def Builtin.documents : List Document :=
  (Manifest.ofValue Builtin.manifest).configs.filterMap fun e => (Document.ofValue e.2).toOption

/-- A config that the built-in package serves is one of its configs. -/
theorem Builtin.mem_documents {name : Text} {document : Document}
    (h : Extends.served Builtin.answer ⟨builtinPackage, name⟩ = .ok document) :
    document ∈ Builtin.documents := by
  have h : Session.namedConfig (Manifest.ofValue Builtin.manifest) builtinPackage name
      = .ok document := h
  rw [Session.namedConfig] at h
  split at h
  · cases h
  · rename_i v hv
    split at h
    · rename_i read
      obtain rfl := Except.ok.inj h
      obtain ⟨e, he, rfl⟩ : ∃ e ∈ (Manifest.ofValue Builtin.manifest).configs, e.2 = v := by
        rw [Manifest.config?] at hv
        split at hv
        · cases hv
        · obtain ⟨e, he, rfl⟩ := Option.map_eq_some_iff.1 hv
          exact ⟨e, List.mem_of_find?_eq_some he, rfl⟩
      exact List.mem_filterMap.2 ⟨e, he, by rw [read]; rfl⟩
    · cases h

/-- **What a shipped config extends and turns on is built-in.** -/
theorem Builtin.served_isBuiltin {name : Text} {document : Document}
    (h : Extends.served Builtin.answer ⟨builtinPackage, name⟩ = .ok document) :
    (∀ reference ∈ document.parents, IsBuiltinReference reference) ∧
      ∀ e ∈ document.rules.entries, IsBuiltinId e.1 := by
  have shipped : ∀ d ∈ Builtin.documents, (∀ reference ∈ d.parents, IsBuiltinReference reference) ∧
      ∀ e ∈ d.rules.entries, IsBuiltinId e.1 := by decide +kernel
  exact shipped document (Builtin.mem_documents h)

namespace Extends

/-- The built-in plugin qualifies an id by leaving it as it is. -/
theorem isBuiltinId_of_qualifiedRules (h : plugin.isBuiltin = true)
    {entries own : List (Value × Value)} (hown : qualifiedRules plugin entries = .ok own)
    (hids : ∀ e ∈ entries, IsBuiltinId e.1) : ∀ e ∈ own, IsBuiltinId e.1 := by
  induction entries generalizing own with
  | nil =>
    obtain rfl := Except.ok.inj hown
    simp
  | cons e entries ih =>
    obtain ⟨id, value⟩ := e
    obtain ⟨hid, hrest⟩ := List.forall_mem_cons.1 hids
    rw [qualifiedRules, List.mapM_cons] at hown
    cases id with
    | str text =>
      cases hmore : qualifiedRules plugin entries with
      | error fault =>
        rw [qualifiedRules] at hmore
        rw [hmore] at hown
        cases hown
      | ok more =>
        have hmore' := hmore
        rw [qualifiedRules] at hmore'
        rw [hmore'] at hown
        obtain rfl := Except.ok.inj hown
        refine List.forall_mem_cons.2 ⟨?_, ih hmore hrest⟩
        rwa [Naming.qualified, if_pos (by simp [h])]
    | _ => cases hown

/-- Every id of the flat list of built-in references names a built-in rule. -/
theorem Flat.isBuiltin {references : List Value} {l : List (Value × Value)}
    (h : Flat Builtin.answer references l)
    (builtin : ∀ reference ∈ references, IsBuiltinReference reference) :
    ∀ e ∈ l, IsBuiltinId e.1 := by
  induction h with
  | nil => simp
  | @cons reference references found document inherited own later opens _ rules _ ihParents
    ihRest =>
    obtain ⟨hfound, hserved⟩ := opens
    obtain ⟨hreference, hrest⟩ := List.forall_mem_cons.1 builtin
    have hb := hreference found hfound
    rw [keyOf, PluginRef.specifier_of_isBuiltin hb] at hserved
    obtain ⟨hparents, hrules⟩ := Builtin.served_isBuiltin hserved
    intro e he
    rcases List.mem_append.1 he with he | he
    · rcases List.mem_append.1 he with he | he
      · exact ihParents hparents e he
      · exact isBuiltinId_of_qualifiedRules hb rules hrules e he
    · exact ihRest hrest e he

/-- A reference to a built-in config adds what the built-in package alone serves, if what it
inherits does so. -/
theorem computes_visitIn_of_isBuiltin (fallback : Option (Loader σ))
    {inherit : List Link → List Value → Resolving σ Ruleset}
    {inherit' : List Link → List Value → Except Fault Ruleset}
    (hinherit : ∀ chain references, (∀ r ∈ references, IsBuiltinReference r) →
      Computes (Session.Untouched world) (inherit chain references) (inherit' chain references))
    (chain : List Link) (rules : Ruleset) {reference : Value}
    (builtin : IsBuiltinReference reference) :
    Computes (Session.Untouched world) (visitIn (.builtin fallback) inherit chain rules reference)
      (visit Builtin.answer inherit' chain rules reference) := by
  refine Computes.bind_of_ok (Computes.ofExcept _) fun found hfound => ?_
  have hb := builtin found hfound
  have hconfig : Computes (Session.Untouched world) _ _ :=
    Session.computes_config_of_isBuiltin fallback hb found.config
  refine Computes.ite (Computes.bind (Computes.throw _) fun _ => ?_) ?_ <;>
  · refine Computes.bind_of_ok hconfig fun document hserved => ?_
    rw [keyOf, PluginRef.specifier_of_isBuiltin hb] at hserved
    have hparents := (Builtin.served_isBuiltin hserved).1
    exact Computes.bind (hinherit _ _ hparents) fun inherited => Computes.ofExcept _

/-- **References to built-in configs are expanded** as the built-in package alone serves them. -/
theorem computes_expand_of_isBuiltin (fallback : Option (Loader σ)) (depth : Nat)
    (chain : List Link) (references : List Value)
    (builtin : ∀ r ∈ references, IsBuiltinReference r) :
    Computes (Session.Untouched world) (expand (.builtin fallback) depth chain references)
      (expandBy Builtin.answer depth chain references) := by
  induction depth generalizing chain references with
  | zero => exact Computes.ite (Computes.pure _) (Computes.throw _)
  | succ depth ih =>
    rw [expand_succ, expandBy]
    refine Computes.foldlM_of_mem (fun rules reference hr => ?_) _
    exact computes_visitIn_of_isBuiltin fallback ih chain rules (builtin reference hr)

/-- The built-in package serves no more configs than it counts. -/
theorem not_servesMoreThan_builtin {n : Nat} (h : Builtin.configCount ≤ n) :
    ¬ ServesMoreThan Builtin.answer n :=
  (counted_ofTable .builtinOnly ⟨[], []⟩).not_servesMoreThan h

/-- **The depth that a loader behind adds does not show.** -/
theorem expandBy_builtin (references : List Value) {n : Nat} (h : Builtin.configCount ≤ n) :
    expandBy Builtin.answer (n + 1) [] references
      = expandBy Builtin.answer (Builtin.configCount + 1) [] references := by
  have outcome : ∀ {n}, Builtin.configCount ≤ n →
      ∃ first, (∀ outcome, Expands Builtin.answer [] references outcome ↔ outcome = first) ∧
        expandBy Builtin.answer (n + 1) [] references = first.map Ruleset.ofList :=
    fun h => (expandBy_yields _ .start (Nat.zero_add _)).outcome
      (not_servesMoreThan_builtin h)
  obtain ⟨first, honly, hfirst⟩ := outcome h
  obtain ⟨first', honly', hfirst'⟩ := outcome (Nat.le_refl _)
  obtain rfl := (honly' first).1 ((honly first).2 rfl)
  rw [hfirst, hfirst']

theorem computes_rulesOf_of_isBuiltin (fallback : Option (Loader σ)) {references : List Value}
    (builtin : ∀ r ∈ references, IsBuiltinReference r) :
    Computes (Session.Untouched world) (rulesOf (.builtin fallback) references)
      (expandBy Builtin.answer (Builtin.configCount + 1) [] references) := by
  intro session hs
  have hbound : Builtin.configCount ≤ configBound (.builtin fallback) session :=
    Nat.le_trans (Nat.le_add_right ..) (bound_le_configBound (.builtin fallback) session)
  rw [rulesOf, Resolving.runIn_bind, Resolving.runIn_get, ← expandBy_builtin references hbound]
  exact computes_expand_of_isBuiltin fallback _ [] references builtin session hs

/-- **Rules inherited from built-in configs are built-in.** -/
theorem isBuiltinId_of_expandBy {n : Nat} {references : List Value} {rules : Ruleset}
    (builtin : ∀ r ∈ references, IsBuiltinReference r)
    (h : expandBy Builtin.answer (n + 1) [] references = .ok rules) :
    ∀ e ∈ rules.entries, IsBuiltinId e.1 := by
  have hyields : Yields Builtin.answer references n [] references {} (.ok rules) :=
    h ▸ expandBy_yields _ .start (Nat.zero_add _)
  obtain ⟨flat, hexpands, rfl⟩ := hyields
  intro e he
  rcases Ruleset.key_of_mem_insertAll he with ⟨e', he', -⟩ | ⟨e', he', heq⟩
  · cases he'
  · exact heq ▸ hexpands.flat.isBuiltin builtin e' he'

end Extends

/-! ## Bundles -/

/-- **A configuration that names nothing but what is built-in**: every reference and every id of an
own rule that is on names a config or a rule of the built-in plugin, or none at all. -/
structure Document.IsBuiltin (document : Document) : Prop where
  parents : ∀ reference ∈ document.parents, IsBuiltinReference reference
  rules : ∀ e ∈ document.rules.entries, Severity.isDisabled e.2 = false → IsBuiltinId e.1

instance (document : Document) : Decidable document.IsBuiltin :=
  decidable_of_iff ((∀ reference ∈ document.parents, IsBuiltinReference reference) ∧
      ∀ e ∈ document.rules.entries, Severity.isDisabled e.2 = false → IsBuiltinId e.1)
    ⟨fun h => ⟨h.1, h.2⟩, fun h => ⟨h.parents, h.rules⟩⟩

namespace Bundle

theorem computes_add_of_isBuiltin (fallback : Option (Loader σ)) (b : Bundle) {id value : Value}
    (h : Severity.isDisabled value = false → IsBuiltinId id) :
    Computes (Session.Untouched world) (b.add (.builtin fallback) id value)
      (addBy Builtin.answer b id value) := by
  refine Computes.bind_of_ok (Computes.ofExcept _) fun normalized hnormalized => ?_
  obtain ⟨rfl, -⟩ := checkedValue_ok hnormalized
  cases hoff : Severity.isDisabled value with
  | true =>
    rw [Severity.isDisabled_normalize, hoff]
    exact Computes.pure _
  | false =>
    rw [Severity.isDisabled_normalize, hoff]
    exact Computes.bind (Session.computes_ruleTarget_of_isBuiltin fallback (h hoff)) fun target =>
      Computes.pure _

theorem computes_ofRules_of_isBuiltin (fallback : Option (Loader σ)) {rules : Ruleset}
    (h : ∀ e ∈ rules.entries, Severity.isDisabled e.2 = false → IsBuiltinId e.1) :
    Computes (Session.Untouched world) (ofRules (.builtin fallback) rules)
      (bundleBy Builtin.answer rules) := by
  rw [ofRules, bundleBy]
  exact Computes.foldlM_of_mem (fun b e he => computes_add_of_isBuiltin fallback b (h e he)) empty

/-- The bundle of a configuration, as the built-in package alone serves it. -/
def ofBuiltin (config : Value) : Except Fault Bundle := do
  match Document.ofValue config with
  | .ok document =>
    let inherited ←
      Extends.expandBy Builtin.answer (Builtin.configCount + 1) [] document.parents
    bundleBy Builtin.answer (inherited.insertAll document.rules.entries)
  | .error cause => throw (.document cause)

/-- **What is built-in is bundled** as the built-in package alone serves it, and nothing else is
met on the way. -/
theorem computes_ofConfig_of_isBuiltin (fallback : Option (Loader σ)) {config : Value}
    (h : ∀ document, Document.ofValue config = .ok document → document.IsBuiltin) :
    Computes (Session.Untouched world) (ofConfig (.builtin fallback) config)
      (ofBuiltin config) := by
  cases hd : Document.ofValue config with
  | error cause =>
    simp only [ofConfig, ofBuiltin, hd]
    exact Computes.throw _
  | ok document =>
    obtain ⟨parents, own⟩ := h document hd
    simp only [ofConfig, ofBuiltin, hd, ofDocument, Extends.effectiveRules, bind_assoc, pure_bind]
    have hinherited : Computes (Session.Untouched world) _ _ :=
      Extends.computes_rulesOf_of_isBuiltin fallback parents
    refine Computes.bind_of_ok hinherited fun inherited hrules => ?_
    refine computes_ofRules_of_isBuiltin fallback ?_
    -- an entry after the merge is an own one that is on, or one that is inherited
    rintro ⟨id, value⟩ he hon rule hrule
    obtain ⟨text, rfl, -⟩ := Naming.rule_eq_ok hrule
    rcases Ruleset.mem_insertAll.1 he with he | ⟨he, -⟩
    · exact own _ he hon rule hrule
    · exact Extends.isBuiltinId_of_expandBy parents hrules _ he rule hrule

/-- **The built-in package is isolated from the loader behind it.**  A configuration that names
nothing but what is built-in has the outcome it has without a loader behind the built-in package,
be it a bundle or a fault.  The loader behind, whatever it answers, is left in the world it was in,
and is asked for nothing. -/
theorem builtin_isolated {config : Value}
    (h : ∀ document, Document.ofValue config = .ok document → document.IsBuiltin)
    (fallback : Loader σ) (world : σ) :
    ((ofConfig (.builtin (some fallback)) config).runIn (Session.start world)).1
        = ((ofConfig (.builtin none : Loader Unit) config).runIn (Session.start ())).1 ∧
      ((ofConfig (.builtin (some fallback)) config).runIn (Session.start world)).2.world = world ∧
      ((ofConfig (.builtin (some fallback.noted)) config).runIn
        (Session.start (world, []))).2.world.2 = [] := by
  obtain ⟨_, hrun, hafter⟩ := computes_ofConfig_of_isBuiltin (some fallback) h _ (.start world)
  obtain ⟨_, hnoted, hafter'⟩ :=
    computes_ofConfig_of_isBuiltin (some fallback.noted) h _ (.start (world, []))
  have halone := (computes_ofConfig_of_isBuiltin none h).outcome (.start ())
  rw [hrun, hnoted, halone]
  exact ⟨rfl, hafter.world, by rw [hafter'.world]⟩

/-- A loader that serves a package of its own under the name of the built-in one, and counts how
often it is asked; every other specifier is a failure. -/
def impostor : Loader Nat where
  load specifier count :=
    (if specifier = builtinPackage then .ok (.map [(.str "rules", .map [])])
      else .error (.foreign "RuntimeError" "boom" false), count + 1)
  bound _ := 0

/-- All built-in configs and three spellings of ids: one of them overrides an inherited rule, one
names a rule that is not shipped, and one is off and names a plugin that is not there. -/
def builtinConfig : Value := .map
  [(.str "extends", .list
    [.str "bpmnlint:all", .str "plugin:bpmnlint-plugin-bpmnlint/correctness"]),
    (.str "rules", .map [(.str "global", .str "off"), (.str "bpmnlint/unknown", .str "warn"),
      (.str "missing/rule", .int 0)])]

/-- The impostor is not asked, and the unknown rule is imported from the built-in package. -/
theorem builtin_isolated_impostor :
    ((ofConfig (.builtin (some impostor)) builtinConfig).runIn (Session.start 7)).2.world = 7 ∧
      ((ofConfig (.builtin (some impostor)) builtinConfig).runIn
        (Session.start 7)).1.toOption.any (fun b => b.imports.length = 24 ∧
          ("bpmnlint/unknown" : Text) ∈ b.imports.map ImportRecord.canonicalId) = true := by
  have named : ∀ document, Document.ofValue builtinConfig = .ok document →
      document.IsBuiltin := by
    intro document hd
    have checked : (Document.ofValue builtinConfig).toOption.all (decide ·.IsBuiltin) = true := by
      decide +kernel
    simpa [hd, Except.toOption] using checked
  obtain ⟨houtcome, hworld, -⟩ := builtin_isolated named impostor 7
  refine ⟨hworld, ?_⟩
  rw [houtcome]
  decide +kernel

end Bundle

end LintBundle
