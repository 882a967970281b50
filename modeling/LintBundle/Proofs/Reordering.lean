import LintBundle.Proofs.Spelling
import LintBundle.Proofs.Targets
import Mathlib.Data.List.Perm.Basic

/-!
# Proofs/Reordering — what the order of rules does to a bundle

Which rules can be bundled, their targets and their values have nothing to do with the order of the
rules; neither has the path of an import, as long as its canonical id belongs to one rule.  The
canonical ids of plugins' rules do (`Naming.eq_of_canonicalId`), and so do those of the rules of the
package being compiled; but that package may have the name of a plugin's, and then rules of both can
have one canonical id (`Shared`), and the first of them has its path imported.
-/

namespace LintBundle

variable {σ : Type} {loader : Loader σ} {f : Text → Except Fault Value}

namespace Session

/-! ## Canonical ids and import paths -/

/-- **Rules with one canonical id are one rule**, unless one is a rule of the package being compiled
and the other is not. -/
theorem eq_of_targetOf {id id' : Value} {rule rule' : RuleName} {target target' : RuleTarget}
    (hrule : Naming.rule id = .ok rule) (hrule' : Naming.rule id' = .ok rule')
    (h : targetOf f rule = .ok target) (h' : targetOf f rule' = .ok target')
    (hid : target.canonicalId = target'.canonicalId)
    (hlocal : rule.plugin.isLocal = rule'.plugin.isLocal) : rule = rule' := by
  obtain ⟨package, hpackage, hcanonical⟩ := canonicalId_of_targetOf h
  obtain ⟨package', hpackage', hcanonical'⟩ := canonicalId_of_targetOf h'
  rw [hcanonical, hcanonical'] at hid
  cases hl : rule.plugin.isLocal with
  | false =>
    have hl' : rule'.plugin.isLocal = false := hlocal ▸ hl
    rw [packageBy, if_neg (by simp [hl])] at hpackage
    rw [packageBy, if_neg (by simp [hl'])] at hpackage'
    obtain rfl := Except.ok.inj hpackage
    obtain rfl := Except.ok.inj hpackage'
    exact Naming.eq_of_canonicalId hrule hrule' hid
  | true =>
    have hplugin : rule.plugin = rule'.plugin :=
      (PluginRef.isLocal_iff.1 hl).trans (PluginRef.isLocal_iff.1 (hlocal ▸ hl)).symm
    obtain rfl := Except.ok.inj (hpackage.symm.trans (hplugin ▸ hpackage'))
    have hname : rule.name = rule'.name := by simpa using hid
    cases rule
    cases rule'
    cases hplugin
    cases hname
    rfl

end Session

namespace Bundle

open Session (Consistent targetBy)

/-- A rule that is on, of the package being compiled or of another, has a canonical id. -/
def HasTarget (f : Text → Except Fault Value) (rules : Ruleset) (isLocal : Bool)
    (canonicalId : Text) : Prop :=
  ∃ e ∈ enabled rules.entries, ∃ rule target, Naming.rule e.1 = .ok rule ∧
    rule.plugin.isLocal = isLocal ∧ targetBy f e.1 = .ok target ∧
      target.canonicalId = canonicalId

/-- **A canonical id of two rules**, one of the package being compiled and one of another. -/
def Shared (f : Text → Except Fault Value) (rules : Ruleset) (canonicalId : Text) : Prop :=
  HasTarget f rules true canonicalId ∧ HasTarget f rules false canonicalId

/-- **Rules with one canonical id have one import path**, unless the id is shared. -/
theorem importPath_eq {rules : Ruleset} {e e' : Value × Value} (he : e ∈ enabled rules.entries)
    (he' : e' ∈ enabled rules.entries) {target target' : RuleTarget}
    (h : targetBy f e.1 = .ok target) (h' : targetBy f e'.1 = .ok target')
    (hid : target.canonicalId = target'.canonicalId) :
    target.importPath = target'.importPath ∨ Shared f rules target.canonicalId := by
  obtain ⟨rule, hrule, hof⟩ := Session.targetBy_eq_ok h
  obtain ⟨rule', hrule', hof'⟩ := Session.targetBy_eq_ok h'
  have hasTarget : HasTarget f rules rule.plugin.isLocal target.canonicalId :=
    ⟨e, he, rule, target, hrule, rfl, h, rfl⟩
  have hasTarget' : HasTarget f rules rule'.plugin.isLocal target.canonicalId :=
    ⟨e', he', rule', target', hrule', rfl, h', hid.symm⟩
  by_cases hlocal : rule.plugin.isLocal = rule'.plugin.isLocal
  · obtain rfl := Session.eq_of_targetOf hrule hrule' hof hof' hid hlocal
    obtain rfl := Except.ok.inj (hof.symm.trans hof')
    exact .inl rfl
  · right
    cases hl : rule.plugin.isLocal <;> cases hl' : rule'.plugin.isLocal <;>
      rw [hl] at hasTarget <;> rw [hl'] at hasTarget'
    · exact absurd (hl.trans hl'.symm) hlocal
    · exact ⟨hasTarget', hasTarget⟩
    · exact ⟨hasTarget, hasTarget'⟩
    · exact absurd (hl.trans hl'.symm) hlocal

/-! ## What is found in another order -/

/-- A bundle is sound for targets that a function serves. -/
theorem sound_of_consistent {rules : Ruleset} {b : Bundle} {session : Session σ}
    (hs : Consistent loader f session) (h : ((ofRules loader rules).runIn session).1 = .ok b) :
    ∃ found, Sound rules.entries found b ∧ ∀ e ∈ found, targetBy f e.1 = .ok e.2 := by
  obtain ⟨found, hfound, hsound⟩ := ofRules_sound (Prod.ext h rfl)
  refine ⟨found, hsound, fun e he => ?_⟩
  obtain ⟨before, after, hbefore, htarget⟩ :=
    mem_targetsOf_of_keeps (fun id => (Session.computes_ruleTarget id).keeps) hs hfound e he
  have := (Session.computes_ruleTarget e.1).outcome hbefore
  rw [htarget] at this
  exact this.symm

/-- What is found for ids depends on the ids alone. -/
theorem perm_of_ids {found found' : List (Value × RuleTarget)}
    (h : ∀ e ∈ found, targetBy f e.1 = .ok e.2) (h' : ∀ e ∈ found', targetBy f e.1 = .ok e.2)
    (hids : (found.map Prod.fst).Perm (found'.map Prod.fst)) : found.Perm found' := by
  have hserved : ∀ {l : List (Value × RuleTarget)}, (∀ e ∈ l, targetBy f e.1 = .ok e.2) →
      (l.map Prod.fst).map (fun id => (id, (targetBy f id).toOption))
        = l.map fun e => (e.1, some e.2) := by
    intro l hl
    rw [List.map_map]
    exact List.map_congr_left fun e he => by simp [hl e he, Except.toOption]
  have hinj : Function.Injective fun e : Value × RuleTarget => (e.1, some e.2) := by
    rintro ⟨id, target⟩ ⟨id', target'⟩ heq
    simpa using heq
  rw [← List.map_perm_map_iff hinj, ← hserved h, ← hserved h']
  exact hids.map _

/-- **Bundles that are one up to the order of their entries** and the numbers of their imports.
What is imported has the same path, unless its canonical id is shared. -/
structure Reordered (f : Text → Except Fault Value) (rules : Ruleset) (b b' : Bundle) :
    Prop where
  table : b.rules.entries.Perm b'.rules.entries
  targets : b.targets.Perm b'.targets
  imported : (b.imports.map ImportRecord.canonicalId).Perm (b'.imports.map ImportRecord.canonicalId)
  cached : (b.cache.map Prod.fst).Perm (b'.cache.map Prod.fst)
  numbered : b.imports.map ImportRecord.identifier = b'.imports.map ImportRecord.identifier
  paths : ∀ record ∈ b.imports, ∀ record' ∈ b'.imports,
    record.canonicalId = record'.canonicalId →
      record.path = record'.path ∨ Shared f rules record.canonicalId

/-- An import's path was found for a rule that is on, with the import's canonical id. -/
theorem Sound.exists_found {entries : List (Value × Value)} {found : List (Value × RuleTarget)}
    {b : Bundle} (h : Sound entries found b) {record : ImportRecord}
    (hrecord : record ∈ b.imports) :
    ∃ e ∈ found, e.2 = ⟨record.path, record.canonicalId⟩ := by
  obtain ⟨e, he, hpath⟩ := Option.map_eq_some_iff.1 (h.paths record hrecord)
  have hid : e.2.canonicalId = record.canonicalId := by simpa using List.find?_some he
  refine ⟨e, List.mem_of_find?_eq_some he, ?_⟩
  rw [← hpath, ← hid]

/-- What is found is found for a rule that is on. -/
theorem Sound.mem_enabled {entries : List (Value × Value)} {found : List (Value × RuleTarget)}
    {b : Bundle} (h : Sound entries found b) {e : Value × RuleTarget} (he : e ∈ found) :
    ∃ value, (e.1, value) ∈ Bundle.enabled entries := by
  obtain ⟨value, hmem, hon⟩ := h.exists_target.1 ⟨e.2, he⟩
  exact ⟨value, List.mem_filter.2 ⟨hmem, by simp [hon]⟩⟩

/-- **Sound bundles of reordered rules** are one up to order. -/
theorem Sound.reordered {rules rules' : Ruleset} {found found' : List (Value × RuleTarget)}
    {b b' : Bundle} (hperm : rules.entries.Perm rules'.entries)
    (hb : Sound rules.entries found b) (h : ∀ e ∈ found, targetBy f e.1 = .ok e.2)
    (hb' : Sound rules'.entries found' b') (h' : ∀ e ∈ found', targetBy f e.1 = .ok e.2) :
    Reordered f rules b b' := by
  have hfound : found.Perm found' := by
    refine perm_of_ids h h' ?_
    rw [hb.enabled, hb'.enabled]
    exact (hperm.filter _).map _
  have himported : (b.imports.map ImportRecord.canonicalId).Perm
      (b'.imports.map ImportRecord.canonicalId) := by
    refine (List.perm_ext_iff_of_nodup hb.distinct hb'.distinct).2 fun id => ?_
    rw [hb.mem_imports, hb'.mem_imports]
    simp only [hfound.mem_iff]
  exact {
    table := by
      rw [hb.table, hb'.table]
      exact hperm.map _
    targets := by
      rw [hb.targets, hb'.targets]
      exact hfound.map _
    imported := himported
    cached := by
      rw [hb.cached, hb'.cached, List.map_map, List.map_map]
      exact himported
    numbered := by
      rw [hb.numbered, hb'.numbered, show b.imports.length = b'.imports.length by
        simpa using himported.length_eq]
    paths := by
      intro record hrecord record' hrecord' hid
      obtain ⟨e, he, htarget⟩ := hb.exists_found hrecord
      obtain ⟨e', he', htarget'⟩ := hb'.exists_found hrecord'
      obtain ⟨value, hvalue⟩ := hb.mem_enabled he
      obtain ⟨value', hvalue'⟩ := hb.mem_enabled (hfound.mem_iff.2 he')
      have hpath := importPath_eq hvalue hvalue' (h e he) (h' e' he')
        (by rw [htarget, htarget', hid])
      rwa [htarget, htarget'] at hpath }

/-- What is imported, and from where. -/
def importedFrom (b : Bundle) : List (Text × Text) :=
  b.imports.map fun record => (record.canonicalId, record.path)

/-- What is imported comes from the same place in another order, where nothing is shared. -/
theorem importedFrom_subset {b b' : Bundle}
    (imported : (b.imports.map ImportRecord.canonicalId).Perm
      (b'.imports.map ImportRecord.canonicalId))
    (paths : ∀ record ∈ b.imports, ∀ record' ∈ b'.imports,
      record.canonicalId = record'.canonicalId → record.path = record'.path) :
    b.importedFrom ⊆ b'.importedFrom := by
  intro pair hpair
  obtain ⟨record, hrecord, rfl⟩ := List.mem_map.1 hpair
  have hid := imported.mem_iff.1 (List.mem_map_of_mem hrecord)
  obtain ⟨record', hrecord', hid'⟩ := List.mem_map.1 hid
  refine List.mem_map.2 ⟨record', hrecord', ?_⟩
  rw [hid', ← paths record hrecord record' hrecord' hid'.symm]

/-- Nothing is imported twice. -/
theorem Sound.nodup_importedFrom {entries : List (Value × Value)}
    {found : List (Value × RuleTarget)} {b : Bundle} (h : Sound entries found b) :
    b.importedFrom.Nodup := by
  refine List.Nodup.of_map Prod.fst ?_
  rw [importedFrom, List.map_map]
  exact h.distinct

/-- **The order of rules does not change what is bundled**, as far as canonical ids belong to one
rule.  Where plugins are served by a function, rules in one order can be bundled exactly if they
can in another, whatever either session remembers; the bundles are one up to order and numbers, and
an import whose canonical id is not shared by a rule of the package being compiled and another has
the same path in both. -/
theorem reordering_keeps_imports {session session' : Session σ}
    (hs : Consistent loader f session) (hs' : Consistent loader f session')
    {rules rules' : Ruleset} (hperm : rules.entries.Perm rules'.entries) :
    ((∃ b, ((ofRules loader rules).runIn session).1 = .ok b) ↔
      ∃ b', ((ofRules loader rules').runIn session').1 = .ok b') ∧
    (∀ b b', ((ofRules loader rules).runIn session).1 = .ok b →
      ((ofRules loader rules').runIn session').1 = .ok b' →
        Reordered f rules b b' ∧
          ((∀ id, ¬ Shared f rules id) → b.importedFrom.Perm b'.importedFrom)) ∧
    ∀ e ∈ enabled rules.entries, ∀ e' ∈ enabled rules.entries, ∀ target target',
      ((Session.ruleTarget loader e.1).runIn session).1 = .ok target →
        ((Session.ruleTarget loader e'.1).runIn session').1 = .ok target' →
          target.canonicalId = target'.canonicalId →
            target.importPath = target'.importPath ∨ Shared f rules target.canonicalId := by
  refine ⟨?_, fun b b' hb hb' => ?_, fun e he e' he' target target' h h' => ?_⟩
  · rw [(computes_ofRules rules).outcome hs, (computes_ofRules rules').outcome hs',
      bundleBy_ok_iff, bundleBy_ok_iff]
    simp only [hperm.mem_iff]
  · obtain ⟨found, hsound, hserved⟩ := sound_of_consistent hs hb
    obtain ⟨found', hsound', hserved'⟩ := sound_of_consistent hs' hb'
    have hreordered := hsound.reordered hperm hserved hsound' hserved'
    refine ⟨hreordered, fun unshared => ?_⟩
    have hpaths : ∀ record ∈ b.imports, ∀ record' ∈ b'.imports,
        record.canonicalId = record'.canonicalId → record.path = record'.path :=
      fun record hrecord record' hrecord' hid =>
        (hreordered.paths record hrecord record' hrecord' hid).resolve_right (unshared _)
    refine (List.perm_ext_iff_of_nodup hsound.nodup_importedFrom hsound'.nodup_importedFrom).2
      fun pair => ⟨fun h => importedFrom_subset hreordered.imported hpaths h, fun h => ?_⟩
    exact importedFrom_subset hreordered.imported.symm
      (fun record' hrecord' record hrecord hid =>
        (hpaths record hrecord record' hrecord' hid.symm).symm) h
  · rw [(Session.computes_ruleTarget e.1).outcome hs] at h
    rw [(Session.computes_ruleTarget e'.1).outcome hs'] at h'
    exact importPath_eq he he' h h'

/-- A package to compile that has the name of a plugin's, and exports nothing. -/
def namesake (specifier : Text) : Except Fault Value :=
  if specifier = packageFile then .ok (Builtin.record [("name", .str "bpmnlint-plugin-foo")])
  else .ok (Builtin.record [])

/-- Rules that are all errors. -/
def errors (ids : List Text) : Ruleset := .ofList (ids.map fun id => (.str id, .str "error"))

/-- Rules of plugins only are imported from the same places in the other order. -/
theorem reordering_keeps_imports_plugins :
    ∃ b b' : Bundle,
      ((ofRules (Loader.ofFunction namesake 0) (errors ["foo/r", "global"])).runIn
        (Session.start ())).1 = .ok b ∧
      ((ofRules (Loader.ofFunction namesake 0) (errors ["global", "foo/r"])).runIn
        (Session.start ())).1 = .ok b' ∧
      b.importedFrom.Perm b'.importedFrom := by
  have consistent := Consistent.start (Loader.answers_ofFunction namesake 0 ())
  have hperm : (errors ["foo/r", "global"]).entries.Perm (errors ["global", "foo/r"]).entries :=
    List.Perm.swap ..
  have bundled : ((ofRules (Loader.ofFunction namesake 0) (errors ["foo/r", "global"])).runIn
      (Session.start ())).1.toOption.any (fun b => b.importedFrom.length = 2) = true := by
    decide +kernel
  obtain ⟨b, _, hrun, -⟩ := Resolving.runIn_of_any bundled
  obtain ⟨hiff, hkeeps, -⟩ := reordering_keeps_imports consistent consistent hperm
  have hb := congrArg Prod.fst hrun
  obtain ⟨b', hb'⟩ := hiff.1 ⟨b, hb⟩
  refine ⟨b, b', hb, hb', (hkeeps b b' hb hb').2 fun id hshared => ?_⟩
  obtain ⟨⟨e, he, rule, _, hrule, hlocal, -⟩, -⟩ := hshared
  rcases List.mem_pair.1 he with rfl | rfl
  · obtain rfl : (⟨⟨"foo", none⟩, "r"⟩ : RuleName) = rule := Except.ok.inj hrule
    cases hlocal
  · obtain rfl : (⟨.builtin, "global"⟩ : RuleName) = rule := Except.ok.inj hrule
    cases hlocal

/-- **The order matters for namesakes**: of two rules with one canonical id, one of the package
being compiled and one of a plugin, the first has its path imported. -/
theorem order_matters_for_namesakes :
    (errors ["local/r", "foo/r"]).entries.Perm (errors ["foo/r", "local/r"]).entries ∧
    ∃ b b' : Bundle,
      ((ofRules (Loader.ofFunction namesake 0) (errors ["local/r", "foo/r"])).runIn
        (Session.start ())).1 = .ok b ∧
      ((ofRules (Loader.ofFunction namesake 0) (errors ["foo/r", "local/r"])).runIn
        (Session.start ())).1 = .ok b' ∧
      b.importedFrom = ([("bpmnlint-plugin-foo/r", "./rules/r")] : List (Text × Text)) ∧
      b'.importedFrom
        = ([("bpmnlint-plugin-foo/r", "bpmnlint-plugin-foo/rules/r")] : List (Text × Text)) ∧
      ¬ b.importedFrom.Perm b'.importedFrom := by
  refine ⟨List.Perm.swap .., _, _, rfl, rfl, rfl, rfl, fun h => ?_⟩
  have hmem := h.mem_iff.1 (List.mem_singleton_self _)
  exact absurd (List.mem_singleton.1 hmem) (by decide)

end Bundle

end LintBundle
