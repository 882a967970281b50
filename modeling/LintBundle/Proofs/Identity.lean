import LintBundle.Command.Report
import LintBundle.Proofs.Overriding

/-!
# Proofs/Identity — a canonical id stands for one rule

    id ──Naming.rule──▸ rule ──canonicalId──▸ id of the same rule

A rule has many spellings and one canonical id, which is a spelling itself.  So canonical ids of
rules of plugins are equal exactly where the rules are, and since a bundle imports each canonical id
once, two ids are served by one import exactly where they name one rule
(`canonicalId_identifies`).  Rules of the package being compiled are left out: their canonical ids
have the name of that package in front.
-/

namespace LintBundle

namespace Naming

/-- The canonical id of the rule that an id names. -/
def canonical (id : Value) : Except Fault Text := (rule id).map RuleName.canonicalId

/-- **A canonical id is an id of its rule.** -/
theorem rule_canonicalId {id : Value} {found : RuleName} (h : rule id = .ok found) :
    rule (.str found.canonicalId) = .ok found := by
  obtain ⟨text, -, names⟩ := rule_eq_ok h
  rw [rule, names.canonicalId.rule?]
  rfl

/-- Canonical ids are their own. -/
theorem canonical_canonicalId {id : Value} {found : RuleName} (h : rule id = .ok found) :
    canonical (.str found.canonicalId) = .ok found.canonicalId := by
  rw [canonical, rule_canonicalId h]
  rfl

end Naming

/-! ## The import that serves an id -/

namespace Bundle

variable {σ α : Type} {loader : Loader σ}

/-- Of entries with different keys, the one with a key is found. -/
theorem find?_same {l : List (Value × α)} (hd : l.Pairwise fun a b => a.1.same b.1 = false)
    {text : Text} {a : α} (h : (.str text, a) ∈ l) :
    (l.find? fun e => e.1.same (.str text)) = some (.str text, a) := by
  induction l with
  | nil => cases h
  | cons e l ih =>
    obtain ⟨hfirst, hrest⟩ := List.pairwise_cons.1 hd
    rcases List.mem_cons.1 h with rfl | hmem
    · exact List.find?_cons_of_pos (Value.same_str.2 rfl)
    · rw [List.find?_cons_of_neg (by simp [hfirst _ hmem])]
      exact ih hrest hmem

/-- The ids of what is found are different. -/
theorem Sound.pairwise_targets {rules : Ruleset} {found : List (Value × RuleTarget)} {b : Bundle}
    (h : Sound rules.entries found b) : b.targets.Pairwise fun a b => a.1.same b.1 = false := by
  have hids : b.targets.map Prod.fst = (Bundle.enabled rules.entries).map Prod.fst := by
    rw [h.targets, List.map_map, ← h.enabled]
    rfl
  have hon : ((Bundle.enabled rules.entries).map Prod.fst).Pairwise fun k k' => k.same k' = false :=
    List.pairwise_map.2 (rules.distinct.filter _)
  rw [← hids] at hon
  exact List.pairwise_map.1 hon

/-- **An id that is on is served by the import of its canonical id.** -/
theorem Sound.importOf? {rules : Ruleset} {found : List (Value × RuleTarget)} {b : Bundle}
    (h : Sound rules.entries found b) {text : Text} {target : RuleTarget}
    (he : (.str text, target) ∈ found) :
    ∃ record ∈ b.imports, record.canonicalId = target.canonicalId ∧
      b.importOf? (.str text) = some record := by
  have htarget : (.str text, target.canonicalId) ∈ b.targets := by
    rw [h.targets]
    exact List.mem_map.2 ⟨_, he, rfl⟩
  obtain ⟨record, hrecord⟩ : ∃ record,
      b.imports.find? (fun record => record.canonicalId = target.canonicalId) = some record := by
    obtain ⟨record, hmem, hid⟩ := List.mem_map.1 (h.mem_imports.2 ⟨_, he, rfl⟩)
    exact Option.isSome_iff_exists.1 (List.find?_isSome.2 ⟨record, hmem, by simpa using hid⟩)
  refine ⟨record, List.mem_of_find?_eq_some hrecord, by simpa using List.find?_some hrecord, ?_⟩
  rw [Bundle.importOf?, find?_same h.pairwise_targets htarget]
  exact hrecord

/-- **A rule of a plugin is served by the import of its canonical id**, whatever id it goes by. -/
theorem importOf?_of_enabled {rules : Ruleset} {b : Bundle} {session session' : Session σ}
    (h : (ofRules loader rules).runIn session = (.ok b, session')) {text : Text} {value : Value}
    (he : (.str text, value) ∈ enabled rules.entries) {rule : RuleName}
    (hrule : Naming.rule (.str text) = .ok rule) (hl : rule.plugin.isLocal = false) :
    ∃ record ∈ b.imports, record.canonicalId = rule.canonicalId ∧
      b.importOf? (.str text) = some record := by
  obtain ⟨found, hfound, hsound⟩ := ofRules_sound h
  obtain ⟨hmem, hon⟩ := List.mem_filter.1 he
  obtain ⟨target, htarget⟩ := hsound.exists_target.2 ⟨value, hmem, by simpa using hon⟩
  obtain ⟨before, after, hasked⟩ := mem_targetsOf hfound _ htarget
  rw [← canonicalId_of_ruleTarget hrule hl hasked]
  exact hsound.importOf? htarget

/-! ## Ids, canonical ids and imports -/

/-- **Canonical ids are rule identity.**  The canonical id of a plugin's rule, which is what is
found for any id of the rule, names that rule again and is its own canonical id; two ids have one
canonical id exactly if they name one rule; and in any bundle of rule sets in which both are on,
each is served by an import of its canonical id, and both by the same one exactly if they name one
rule. -/
theorem canonicalId_identifies {id id' : Text} {rule rule' : RuleName}
    (hrule : Naming.rule (.str id) = .ok rule) (hl : rule.plugin.isLocal = false)
    (hrule' : Naming.rule (.str id') = .ok rule') (hl' : rule'.plugin.isLocal = false) :
    (∀ session target session',
      (Session.ruleTarget loader (.str id)).runIn session = (.ok target, session') →
        target.canonicalId = rule.canonicalId) ∧
    Naming.rule (.str rule.canonicalId) = .ok rule ∧
    Naming.canonical (.str id) = .ok rule.canonicalId ∧
    Naming.canonical (.str rule.canonicalId) = .ok rule.canonicalId ∧
    (rule.canonicalId = rule'.canonicalId ↔ Naming.rule (.str id) = Naming.rule (.str id')) ∧
    ∀ rules b session session' value value',
      (ofRules loader rules).runIn session = (.ok b, session') →
      (.str id, value) ∈ enabled rules.entries → (.str id', value') ∈ enabled rules.entries →
        ∃ record ∈ b.imports, record.canonicalId = rule.canonicalId ∧
          b.importOf? (.str id) = some record ∧
          (b.importOf? (.str id') = some record ↔
            Naming.rule (.str id) = Naming.rule (.str id')) := by
  have identified : rule.canonicalId = rule'.canonicalId ↔
      Naming.rule (.str id) = Naming.rule (.str id') := by
    rw [hrule, hrule', Except.ok.injEq]
    exact ⟨Naming.eq_of_canonicalId hrule hrule', congrArg RuleName.canonicalId⟩
  refine ⟨fun _ _ _ => canonicalId_of_ruleTarget hrule hl, Naming.rule_canonicalId hrule, ?_,
    Naming.canonical_canonicalId hrule, identified, ?_⟩
  · rw [Naming.canonical, hrule]
    rfl
  intro rules b session session' value value' hrun he he'
  obtain ⟨record, hrecord, hid, hserves⟩ := importOf?_of_enabled hrun he hrule hl
  obtain ⟨record', hrecord', hid', hserves'⟩ := importOf?_of_enabled hrun he' hrule' hl'
  refine ⟨record, hrecord, hid, hserves, ?_⟩
  rw [hserves', Option.some.injEq, ← identified, ← hid, ← hid']
  obtain ⟨_, -, hsound⟩ := ofRules_sound hrun
  exact ⟨fun h => h ▸ rfl, fun h =>
    (List.inj_on_of_nodup_map hsound.distinct hrecord hrecord' h).symm⟩

/-- A scoped rule under its two spellings, and one of a plugin whose name is the prefix alone. -/
def spelledTwice : Ruleset := .ofList
  [(.str "@acme/foo/nested/r", .str "warn"), (.str "bpmnlint-plugin-/r", .str "error"),
    (.str "@acme/bpmnlint-plugin-foo/nested/r", .int 2)]

/-- The scoped rule has one import. -/
theorem canonicalId_identifies_spelledTwice :
    ∃ b session' record record',
      (ofRules (Loader.builtin none) spelledTwice).runIn (Session.start ())
        = (.ok b, session') ∧
      b.importOf? (.str "@acme/foo/nested/r") = some record ∧
      b.importOf? (.str "@acme/bpmnlint-plugin-foo/nested/r") = some record ∧
      b.importOf? (.str "bpmnlint-plugin-/r") = some record' ∧ record' ≠ record ∧
      Naming.rule (.str record'.canonicalId) = Naming.rule (.str "bpmnlint-plugin-/r") := by
  have bundled : ((ofRules (Loader.builtin none) spelledTwice).runIn
      (Session.start ())).1.toOption.any (fun b => b.imports.length = 2) = true := by
    decide +kernel
  obtain ⟨b, session', hrun, -⟩ := Resolving.runIn_of_any bundled
  have hscoped : Naming.rule (.str "@acme/foo/nested/r")
      = .ok ⟨⟨"foo", some "@acme"⟩, "nested/r"⟩ := rfl
  have hfull : Naming.rule (.str "@acme/bpmnlint-plugin-foo/nested/r")
      = .ok ⟨⟨"foo", some "@acme"⟩, "nested/r"⟩ := rfl
  have hprefix : Naming.rule (.str "bpmnlint-plugin-/r")
      = .ok ⟨⟨"bpmnlint-plugin-", none⟩, "r"⟩ := rfl
  obtain ⟨-, -, -, -, -, hserved⟩ :=
    @canonicalId_identifies Unit (.builtin none) _ _ _ _ hscoped rfl hfull rfl
  obtain ⟨-, hagain, -, -, -, hserved'⟩ :=
    @canonicalId_identifies Unit (.builtin none) _ _ _ _ hprefix rfl hscoped rfl
  have hfirst : (.str "@acme/foo/nested/r", .str "warn") ∈ enabled spelledTwice.entries :=
    List.mem_cons_self ..
  have hsecond : (.str "bpmnlint-plugin-/r", .str "error") ∈ enabled spelledTwice.entries :=
    List.mem_cons_of_mem _ (List.mem_cons_self ..)
  have hthird : (.str "@acme/bpmnlint-plugin-foo/nested/r", .int 2) ∈
      enabled spelledTwice.entries :=
    List.mem_cons_of_mem _ (List.mem_cons_of_mem _ (List.mem_cons_self ..))
  obtain ⟨record, -, -, hserves, hsame⟩ := hserved _ _ _ _ _ _ hrun hfirst hthird
  obtain ⟨record', -, hid, hserves', hother⟩ := hserved' _ _ _ _ _ _ hrun hsecond hfirst
  refine ⟨b, session', record, record', hrun, hserves, hsame.2 (hscoped.trans hfull.symm),
    hserves', ?_, ?_⟩
  · rintro rfl
    have hrules := hprefix.symm.trans ((hother.1 hserves).trans hscoped)
    exact absurd (Except.ok.inj hrules) (by decide)
  · rw [hid, hagain, hprefix]

end Bundle

end LintBundle
