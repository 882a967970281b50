import LintBundle.Proofs.Bundling
import LintBundle.Proofs.Spelling

/-!
# Proofs/Overriding — how far own rules override the rules that are inherited

Rules are merged by their ids, and imported by what the ids name.  So a rule that a configuration
turns off stays off as long as nothing else turns it on: an own id of the same rule
(`turnsOn_insertAll`), an inherited one that is none of the own ids, or a rule of the package being
compiled where that package has the name of the rule's (`imported_iff`).  There is no other way,
since rules of plugins have different canonical ids (`Naming.eq_of_canonicalId`).
-/

namespace LintBundle

namespace Bundle

variable {σ : Type} {loader : Loader σ}

/-! ## Rules that are turned on -/

/-- Some id of a rule has a value that is on. -/
def TurnsOn (entries : List (Value × Value)) (rule : RuleName) : Prop :=
  ∃ e ∈ entries, Severity.isDisabled e.2 = false ∧ Naming.rule e.1 = .ok rule

/-- The inherited rules under ids that are none of the own ones. -/
def notOverridden (inherited own : Ruleset) : List (Value × Value) :=
  inherited.entries.filter fun e => !Ruleset.hasId own.entries e.1

/-- **What is turned on after a merge** is turned on by an own rule, or by an inherited one that is
not overridden. -/
theorem turnsOn_insertAll {inherited own : Ruleset} {rule : RuleName} :
    TurnsOn (inherited.insertAll own.entries).entries rule ↔
      TurnsOn own.entries rule ∨ TurnsOn (notOverridden inherited own) rule := by
  constructor
  · rintro ⟨⟨id, value⟩, he, hon, hrule⟩
    obtain ⟨text, rfl, -⟩ := Naming.rule_eq_ok hrule
    rcases Ruleset.mem_insertAll.1 he with he | ⟨he, hother⟩
    · exact .inl ⟨_, he, hon, hrule⟩
    · exact .inr ⟨_, List.mem_filter.2 ⟨he, by simp [hother]⟩, hon, hrule⟩
  · rintro (⟨⟨id, value⟩, he, hon, hrule⟩ | ⟨⟨id, value⟩, he, hon, hrule⟩) <;>
      obtain ⟨text, rfl, -⟩ := Naming.rule_eq_ok hrule
    · exact ⟨_, Ruleset.mem_insertAll.2 (.inl he), hon, hrule⟩
    · obtain ⟨he, hother⟩ := List.mem_filter.1 he
      exact ⟨_, Ruleset.mem_insertAll.2 (.inr ⟨he, by simpa using hother⟩), hon, hrule⟩

/-! ## Rules that are imported -/

/-- A rule of the package being compiled has the canonical id of another rule. -/
def HasTwin (b : Bundle) (rule : RuleName) : Prop :=
  ∃ target ∈ b.targets, target.2 = rule.canonicalId ∧
    ∃ twin, Naming.rule target.1 = .ok twin ∧ twin.plugin.isLocal = true

/-- The canonical id of a rule, unless it is one of the package being compiled. -/
theorem canonicalId_of_ruleTarget {id : Value} {rule : RuleName} {target : RuleTarget}
    {session session' : Session σ} (hrule : Naming.rule id = .ok rule)
    (hl : rule.plugin.isLocal = false)
    (h : (Session.ruleTarget loader id).runIn session = (.ok target, session')) :
    target.canonicalId = rule.canonicalId := by
  obtain ⟨rule', package, hrule', hid, hpackage⟩ := Session.ruleTarget_ok h
  obtain rfl := Except.ok.inj (hrule.symm.trans hrule')
  rw [hid, hpackage hl]
  rfl

/-- **A rule is imported exactly if one of its ids is on**, or if it has a twin. -/
theorem imported_iff {rules : Ruleset} {b : Bundle} {session session' : Session σ}
    (h : (ofRules loader rules).runIn session = (.ok b, session')) {id : Value} {rule : RuleName}
    (hrule : Naming.rule id = .ok rule) (hl : rule.plugin.isLocal = false) :
    rule.canonicalId ∈ b.imports.map ImportRecord.canonicalId ↔
      TurnsOn rules.entries rule ∨ HasTwin b rule := by
  obtain ⟨found, hfound, hsound⟩ := ofRules_sound h
  have hasked := mem_targetsOf hfound
  rw [hsound.mem_imports]
  constructor
  · rintro ⟨⟨id', target⟩, he, hid⟩
    obtain ⟨before, after, htarget⟩ := hasked _ he
    obtain ⟨rule', _, hrule', -, -⟩ := Session.ruleTarget_ok htarget
    cases hl' : rule'.plugin.isLocal with
    | true =>
      refine .inr ⟨(id', target.canonicalId), ?_, hid, rule', hrule', hl'⟩
      rw [hsound.targets]
      exact List.mem_map.2 ⟨_, he, rfl⟩
    | false =>
      have hsame : rule'.canonicalId = rule.canonicalId :=
        (canonicalId_of_ruleTarget hrule' hl' htarget).symm.trans hid
      obtain rfl := Naming.eq_of_canonicalId hrule' hrule hsame
      obtain ⟨value, hvalue, hon⟩ := hsound.exists_target.1 ⟨target, he⟩
      exact .inl ⟨_, hvalue, hon, hrule'⟩
  · rintro (⟨⟨id', value⟩, he, hon, hrule'⟩ | ⟨target, htarget, hid, -⟩)
    · obtain ⟨target, hmem⟩ := hsound.exists_target.2 ⟨value, he, hon⟩
      obtain ⟨before, after, htarget⟩ := hasked _ hmem
      exact ⟨_, hmem, canonicalId_of_ruleTarget hrule' hl htarget⟩
    · rw [hsound.targets] at htarget
      obtain ⟨e, he, rfl⟩ := List.mem_map.1 htarget
      exact ⟨e, he, hid⟩

/-! ## Configurations -/

/-- **Own rules override inherited ones by their ids.**  Where a configuration is bundled, a rule
that one of its own ids turns off, and that is not one of the package being compiled, is imported
and cached only if another own id of that rule is on, or an inherited one that is none of the own
ids, or if a rule of the package being compiled has its canonical id; and in these cases it is. -/
theorem own_rules_override {config : Value} {b : Bundle} {session session' : Session σ}
    (h : (ofConfig loader config).runIn session = (.ok b, session')) :
    ∃ document inherited, Document.ofValue config = .ok document ∧
      ((Extends.rulesOf loader document.parents).runIn session).1 = .ok inherited ∧
      ∀ e ∈ document.rules.entries, Severity.isDisabled e.2 = true →
        ∀ rule, Naming.rule e.1 = .ok rule → rule.plugin.isLocal = false →
          (∀ before target after,
            (Session.ruleTarget loader e.1).runIn before = (.ok target, after) →
              target.canonicalId = rule.canonicalId) ∧
          (rule.canonicalId ∈ b.cache.map Prod.fst ↔
            rule.canonicalId ∈ b.imports.map ImportRecord.canonicalId) ∧
          (rule.canonicalId ∈ b.imports.map ImportRecord.canonicalId ↔
            TurnsOn document.rules.entries rule ∨
              TurnsOn (notOverridden inherited document.rules) rule ∨ HasTwin b rule) := by
  obtain ⟨document, inherited, session₁, hd, hinherited, hrules⟩ := ofConfig_ok h
  refine ⟨document, inherited, hd, congrArg Prod.fst hinherited, ?_⟩
  intro e _ _ rule hrule hl
  obtain ⟨found, -, hsound⟩ := ofRules_sound hrules
  refine ⟨fun _ _ _ => canonicalId_of_ruleTarget hrule hl, hsound.mem_cache, ?_⟩
  rw [imported_iff hrules hrule hl, turnsOn_insertAll, or_assoc]

/-- A plugin with a config that turns on its rule, and a package to compile that has the name of the
plugin's. -/
def namesakes : Modules where
  entries :=
    [ ("bpmnlint-plugin-foo", .ok (Builtin.record [("configs", Builtin.record
        [("base", Builtin.record [("rules", Builtin.errors ["r"])])])])),
      ("./package.json", .ok (Builtin.record [("name", .str "bpmnlint-plugin-foo")])),
      (".", .ok (Builtin.record [])) ]
  requested := []

/-- A configuration that extends the plugin's config. -/
def extendsFoo (own : List (Text × Value)) : Value :=
  Builtin.record [("extends", .str "plugin:foo/base"), ("rules", Builtin.record own)]

/-- Rules that are all off turn nothing on. -/
theorem not_turnsOn {entries : List (Value × Value)} {rule : RuleName}
    (h : enabled entries = []) : ¬ TurnsOn entries rule := by
  rintro ⟨e, he, hon, -⟩
  have hmem : e ∈ enabled entries := List.mem_filter.2 ⟨he, by simp [hon]⟩
  simp [h] at hmem

/-- The rule of the config is turned off under the id it is inherited by. -/
theorem own_rules_override_namesakes :
    ∃ b session', (ofConfig Loader.modules (extendsFoo [("foo/r", .str "off")])).runIn
        (Session.start namesakes) = (.ok b, session') ∧
      ("bpmnlint-plugin-foo/r" : Text) ∉ b.imports.map ImportRecord.canonicalId ∧
      ("bpmnlint-plugin-foo/r" : Text) ∉ b.cache.map Prod.fst := by
  have hasNone : ((ofConfig Loader.modules (extendsFoo [("foo/r", .str "off")])).runIn
      (Session.start namesakes)).1.toOption.any (fun b => b.targets.isEmpty) = true := by
    decide +kernel
  have overridesAll : ((Extends.rulesOf Loader.modules [.str "plugin:foo/base"]).runIn
      (Session.start namesakes)).1.toOption.any (fun inherited => (notOverridden inherited
        (.ofList [(.str "foo/r", .str "off")])).isEmpty) = true := by
    decide +kernel
  obtain ⟨b, session', hrun, htargets⟩ := Resolving.runIn_of_any hasNone
  obtain ⟨rules, session₁, hrules, hnone⟩ := Resolving.runIn_of_any overridesAll
  obtain ⟨document, inherited, hd, hinherited, hoverride⟩ := own_rules_override hrun
  obtain rfl : ⟨.ofList [(.str "foo/r", .str "off")], [.str "plugin:foo/base"]⟩ = document :=
    Except.ok.inj hd
  obtain rfl : rules = inherited := Except.ok.inj ((congrArg Prod.fst hrules).symm.trans hinherited)
  obtain ⟨-, hcache, himports⟩ := hoverride (.str "foo/r", .str "off") (List.mem_singleton_self _)
    rfl ⟨⟨"foo", none⟩, "r"⟩ rfl rfl
  have hoff : ("bpmnlint-plugin-foo/r" : Text) ∉ b.imports.map ImportRecord.canonicalId := by
    refine fun h => ?_
    rcases himports.1 h with hown | hinherited | ⟨target, htarget, -⟩
    · exact not_turnsOn rfl hown
    · rw [List.isEmpty_iff.1 hnone] at hinherited
      exact not_turnsOn rfl hinherited
    · rw [List.isEmpty_iff.1 htargets] at htarget
      cases htarget
  exact ⟨b, session', hrun, hoff, fun h => hoff (hcache.1 h)⟩

/-- Overriding by what ids name: a rule that an own id turns off is not imported, unless another own
id turns it on. -/
def OverridesByName (loader : Loader σ) (session : Session σ) (config : Value) : Prop :=
  ∀ document b session', Document.ofValue config = .ok document →
    (ofConfig loader config).runIn session = (.ok b, session') →
      ∀ e ∈ document.rules.entries, Severity.isDisabled e.2 = true →
        ∀ rule, Naming.rule e.1 = .ok rule → rule.plugin.isLocal = false →
          ¬ TurnsOn document.rules.entries rule →
            rule.canonicalId ∉ b.imports.map ImportRecord.canonicalId ∧
              rule.canonicalId ∉ b.cache.map Prod.fst

/-- **Ids that name one rule do not override each other**, and a rule of the package being compiled
may have the canonical id of a rule that is off. -/
theorem not_overridesByName :
    ¬ OverridesByName Loader.modules (Session.start namesakes)
        (extendsFoo [("bpmnlint-plugin-foo/r", .str "off")]) ∧
      ¬ OverridesByName Loader.modules (Session.start namesakes)
        (Builtin.record [("rules", Builtin.record
          [("foo/r", .str "off"), ("local/r", .str "error")])]) := by
  constructor
  · have imported : ((ofConfig Loader.modules
        (extendsFoo [("bpmnlint-plugin-foo/r", .str "off")])).runIn
          (Session.start namesakes)).1.toOption.any (fun b =>
            (b.imports.map ImportRecord.canonicalId).contains "bpmnlint-plugin-foo/r") = true := by
      decide +kernel
    obtain ⟨b, session', hrun, hmem⟩ := Resolving.runIn_of_any imported
    refine fun h => (h _ b session' rfl hrun _ (List.mem_singleton_self _) rfl
      ⟨⟨"foo", none⟩, "r"⟩ rfl rfl (not_turnsOn rfl)).1 ?_
    exact List.contains_iff_mem.1 hmem
  · have imported : ((ofConfig Loader.modules (Builtin.record [("rules", Builtin.record
        [("foo/r", .str "off"), ("local/r", .str "error")])])).runIn
          (Session.start namesakes)).1.toOption.any (fun b =>
            (b.imports.map ImportRecord.canonicalId).contains "bpmnlint-plugin-foo/r") = true := by
      decide +kernel
    obtain ⟨b, session', hrun, hmem⟩ := Resolving.runIn_of_any imported
    refine fun h => (h _ b session' rfl hrun _ (List.mem_cons_self ..) rfl
      ⟨⟨"foo", none⟩, "r"⟩ rfl rfl ?_).1 (List.contains_iff_mem.1 hmem)
    -- the one own rule that is on is another rule
    rintro ⟨e, he, hon, hrule⟩
    rcases List.mem_pair.1 he with rfl | rfl
    · cases hon
    · have hsame : (⟨⟨"local", none⟩, "r"⟩ : RuleName) = ⟨⟨"foo", none⟩, "r"⟩ :=
        Except.ok.inj hrule
      exact absurd hsame (by decide)

end Bundle

end LintBundle
