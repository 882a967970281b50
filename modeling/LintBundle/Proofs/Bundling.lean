import LintBundle.Bundle
import LintBundle.Proofs.Merging
import LintBundle.Proofs.Normalizing
import LintBundle.Proofs.Resolving
import Mathlib.Data.List.Nodup

/-!
# Proofs/Bundling — the four parts of a bundle, and how a run keeps them together

A bundle is sound for the rules gone through so far and the targets found for those of them that
are on (`Sound`).  A rule that is off leaves all but the table alone; one that is on adds a target,
and an import only for a new canonical id.  Either way a sound bundle stays sound, so the bundle of
a rule set is sound for all its rules.  Runs over rules that differ in those that are off alone come
to the same imports (`foldlM_add_trimmed`).
-/

namespace LintBundle

namespace Bundle

variable {σ : Type} {loader : Loader σ}

/-! ## Rules that are on -/

/-- The rules that are on. -/
def enabled (entries : List (Value × Value)) : List (Value × Value) :=
  entries.filter fun e => !Severity.isDisabled e.2

theorem enabled_append_off {entries : List (Value × Value)} {id value : Value}
    (h : Severity.isDisabled value = true) :
    enabled (entries ++ [(id, value)]) = enabled entries := by
  simp [enabled, h]

theorem enabled_append_on {entries : List (Value × Value)} {id value : Value}
    (h : Severity.isDisabled value = false) :
    enabled (entries ++ [(id, value)]) = enabled entries ++ [(id, value)] := by
  simp [enabled, h]

/-- Where rules are imported from, asked for one after the other. -/
def targetsOf (loader : Loader σ) (entries : List (Value × Value)) :
    Resolving σ (List (Value × RuleTarget)) :=
  entries.mapM fun e => do return (e.1, ← Session.ruleTarget loader e.1)

/-- A rule whose canonical id is imported adds a target alone. -/
theorem addTarget_known {b : Bundle} {target : RuleTarget} (rules : Ruleset) (id : Value)
    (h : b.imports? target.canonicalId = true) :
    { b with rules := rules }.addTarget id target =
      { b with rules := rules, targets := b.targets ++ [(id, target.canonicalId)] } :=
  if_pos h

/-- A rule with a new canonical id adds an import, a cache entry and a target. -/
theorem addTarget_new {b : Bundle} {target : RuleTarget} (rules : Ruleset) (id : Value)
    (h : ¬ b.imports? target.canonicalId = true) :
    { b with rules := rules }.addTarget id target =
      { rules := rules
        targets := b.targets ++ [(id, target.canonicalId)]
        cache := b.cache ++ [(target.canonicalId, identifier b.cache.length)]
        imports := b.imports ++
          [⟨identifier b.cache.length, target.importPath, target.canonicalId⟩] } :=
  if_neg h

/-! ## Sound bundles -/

/-- **What a bundle has to be**, given the rules gone through and the targets found for those of
them that are on. -/
structure Sound (entries : List (Value × Value)) (found : List (Value × RuleTarget))
    (b : Bundle) : Prop where
  /-- All rules are in the table, with normalized values. -/
  table : b.rules.entries = entries.map fun e => (e.1, Severity.normalize e.2)
  /-- Every value in the table has a JSON form. -/
  shown : ∀ e ∈ entries, ∃ j, Json.ofValue (Severity.normalize e.2) = .ok j
  /-- What is found is found for the rules that are on, in order. -/
  enabled : found.map Prod.fst = (enabled entries).map Prod.fst
  /-- Each of them has the canonical id found for it, and no other rule has one. -/
  targets : b.targets = found.map fun e => (e.1, e.2.canonicalId)
  /-- The canonical ids are imported once each, in the order of their first occurrences. -/
  imported : b.imports.map ImportRecord.canonicalId = (b.targets.map Prod.snd).eraseDups
  distinct : (b.imports.map ImportRecord.canonicalId).Nodup
  /-- The imports are numbered from zero. -/
  numbered : b.imports.map ImportRecord.identifier
    = (List.range b.imports.length).map identifier
  /-- The cache is what the imports say. -/
  cached : b.cache = b.imports.map fun record => (record.canonicalId, record.identifier)
  /-- An import has the path of the first rule found with its canonical id. -/
  paths : ∀ record ∈ b.imports,
    (found.find? fun e => e.2.canonicalId = record.canonicalId).map (fun e => e.2.importPath)
      = some record.path

theorem Sound.empty : Sound [] [] Bundle.empty where
  table := rfl
  shown := by simp
  enabled := rfl
  targets := rfl
  imported := rfl
  distinct := List.nodup_nil
  numbered := rfl
  cached := rfl
  paths := by simp [Bundle.empty]

/-- The canonical ids with an import are those of the targets. -/
theorem Sound.imports?_iff {entries : List (Value × Value)} {found : List (Value × RuleTarget)}
    {b : Bundle} (h : Sound entries found b) (id : Text) :
    b.imports? id = true ↔ id ∈ b.targets.map Prod.snd := by
  have hcache : b.cache.map Prod.fst = (b.targets.map Prod.snd).eraseDups := by
    rw [← h.imported, h.cached, List.map_map]
    rfl
  rw [← List.mem_eraseDups, ← hcache, imports?, List.any_eq_true]
  simp

/-- The ids with a target are those of the rules that are on. -/
theorem Sound.exists_target {entries : List (Value × Value)} {found : List (Value × RuleTarget)}
    {b : Bundle} (h : Sound entries found b) {id : Value} :
    (∃ target, (id, target) ∈ found) ↔
      ∃ value, (id, value) ∈ entries ∧ Severity.isDisabled value = false := by
  have hids : id ∈ found.map Prod.fst ↔ id ∈ (Bundle.enabled entries).map Prod.fst := by
    rw [h.enabled]
  simpa [Bundle.enabled] using hids

/-- A canonical id has an import if it is found for a rule that is on. -/
theorem Sound.mem_imports {entries : List (Value × Value)} {found : List (Value × RuleTarget)}
    {b : Bundle} (h : Sound entries found b) {canonicalId : Text} :
    canonicalId ∈ b.imports.map ImportRecord.canonicalId ↔
      ∃ e ∈ found, e.2.canonicalId = canonicalId := by
  rw [h.imported, List.mem_eraseDups, h.targets]
  simp

/-- What is cached is what is imported. -/
theorem Sound.mem_cache {entries : List (Value × Value)} {found : List (Value × RuleTarget)}
    {b : Bundle} (h : Sound entries found b) {canonicalId : Text} :
    canonicalId ∈ b.cache.map Prod.fst ↔
      canonicalId ∈ b.imports.map ImportRecord.canonicalId := by
  rw [h.cached, List.map_map]
  rfl

/-- Every import has a number. -/
theorem Sound.exists_identifier {entries : List (Value × Value)} {found : List (Value × RuleTarget)}
    {b : Bundle} (h : Sound entries found b) {record : ImportRecord}
    (hrecord : record ∈ b.imports) :
    ∃ n, record.identifier = identifier n := by
  have hmem := List.mem_map_of_mem (f := ImportRecord.identifier) hrecord
  rw [h.numbered] at hmem
  obtain ⟨n, -, hn⟩ := List.mem_map.1 hmem
  exact ⟨n, hn.symm⟩

/-! ## One rule more -/

section Step

variable {entries : List (Value × Value)} {found : List (Value × RuleTarget)} {b : Bundle}
  {id value : Value}

/-- A new rule goes to the end of the table. -/
theorem entries_insert_of_new
    (h : b.rules.entries = entries.map fun e => (e.1, Severity.normalize e.2))
    (isNew : ∀ e ∈ entries, e.1.same id = false) (value : Value) :
    (b.rules.insert id (Severity.normalize value)).entries
      = (entries ++ [(id, value)]).map fun e => (e.1, Severity.normalize e.2) := by
  have hid : Ruleset.hasId b.rules.entries id = false := by
    rw [h, Ruleset.hasId, List.any_map, List.any_eq_false]
    intro e he
    simp [isNew e he]
  rw [List.map_append, ← h]
  exact Ruleset.put_of_not_hasId _ hid

theorem shown_append (h : ∀ e ∈ entries, ∃ j, Json.ofValue (Severity.normalize e.2) = .ok j)
    (shown : ∃ j, Json.ofValue (Severity.normalize value) = .ok j) :
    ∀ e ∈ entries ++ [(id, value)], ∃ j, Json.ofValue (Severity.normalize e.2) = .ok j := by
  intro e he
  rcases List.mem_append.1 he with he | he
  · exact h e he
  · obtain rfl := List.mem_singleton.1 he
    exact shown

/-- **A rule that is off** changes the table alone. -/
theorem Sound.off (h : Sound entries found b) (isNew : ∀ e ∈ entries, e.1.same id = false)
    (shown : ∃ j, Json.ofValue (Severity.normalize value) = .ok j)
    (hoff : Severity.isDisabled value = true) :
    Sound (entries ++ [(id, value)]) found
      { b with rules := b.rules.insert id (Severity.normalize value) } where
  table := entries_insert_of_new h.table isNew value
  shown := shown_append h.shown shown
  enabled := by
    rw [enabled_append_off hoff]
    exact h.enabled
  targets := h.targets
  imported := h.imported
  distinct := h.distinct
  numbered := h.numbered
  cached := h.cached
  paths := h.paths

/-- A new canonical id comes last; a known one changes nothing. -/
theorem eraseDups_append_singleton (ids : List Text) (id : Text) :
    (ids ++ [id]).eraseDups = if id ∈ ids then ids.eraseDups else ids.eraseDups ++ [id] := by
  rw [List.eraseDups_append]
  split
  · simp_all [List.removeAll]
  · simp_all [List.removeAll, List.eraseDups_cons]

/-- The first rule found with a canonical id stays the first. -/
theorem path_append {id path : Text} (more : List (Value × RuleTarget))
    (h : (found.find? fun e => e.2.canonicalId = id).map (fun e => e.2.importPath) = some path) :
    ((found ++ more).find? fun e => e.2.canonicalId = id).map (fun e => e.2.importPath)
      = some path := by
  obtain ⟨e, he, rfl⟩ := Option.map_eq_some_iff.1 h
  rw [List.find?_append, he]
  rfl

/-- What is found for one rule more is found for a rule that is on. -/
theorem Sound.enabled_append (h : Sound entries found b) (hon : Severity.isDisabled value = false)
    (target : RuleTarget) :
    (found ++ [(id, target)]).map Prod.fst
      = (Bundle.enabled (entries ++ [(id, value)])).map Prod.fst := by
  rw [enabled_append_on hon, List.map_append, List.map_append, h.enabled]
  rfl

theorem Sound.targets_append (h : Sound entries found b) (id : Value) (target : RuleTarget) :
    b.targets ++ [(id, target.canonicalId)]
      = (found ++ [(id, target)]).map fun e => (e.1, e.2.canonicalId) := by
  rw [List.map_append, h.targets]
  rfl

/-- The canonical ids of one target more. -/
theorem eraseDups_targets (b : Bundle) (id : Value) (target : RuleTarget) :
    ((b.targets ++ [(id, target.canonicalId)]).map Prod.snd).eraseDups
      = if target.canonicalId ∈ b.targets.map Prod.snd then (b.targets.map Prod.snd).eraseDups
        else (b.targets.map Prod.snd).eraseDups ++ [target.canonicalId] := by
  rw [List.map_append]
  exact eraseDups_append_singleton _ _

/-- Nothing was found with a new canonical id. -/
theorem Sound.find?_new (h : Sound entries found b) {canonicalId : Text}
    (hnew : canonicalId ∉ b.targets.map Prod.snd) :
    (found.find? fun e => e.2.canonicalId = canonicalId) = none := by
  rw [List.find?_eq_none]
  intro e he heq
  refine hnew ?_
  rw [h.targets, List.map_map]
  exact List.mem_map.2 ⟨e, he, of_decide_eq_true heq⟩

/-- A rule that is on and has a known canonical id adds a target. -/
theorem Sound.on_known (h : Sound entries found b) (isNew : ∀ e ∈ entries, e.1.same id = false)
    (shown : ∃ j, Json.ofValue (Severity.normalize value) = .ok j)
    (hon : Severity.isDisabled value = false) (target : RuleTarget)
    (hknown : target.canonicalId ∈ b.targets.map Prod.snd) :
    Sound (entries ++ [(id, value)]) (found ++ [(id, target)])
      { b with
        rules := b.rules.insert id (Severity.normalize value)
        targets := b.targets ++ [(id, target.canonicalId)] } where
  table := entries_insert_of_new h.table isNew value
  shown := shown_append h.shown shown
  enabled := h.enabled_append hon target
  targets := h.targets_append id target
  imported := by rw [eraseDups_targets, if_pos hknown]; exact h.imported
  distinct := h.distinct
  numbered := h.numbered
  cached := h.cached
  paths := fun record hrecord => path_append _ (h.paths record hrecord)

/-- A rule that is on and has a new canonical id adds an import as well. -/
theorem Sound.on_new (h : Sound entries found b) (isNew : ∀ e ∈ entries, e.1.same id = false)
    (shown : ∃ j, Json.ofValue (Severity.normalize value) = .ok j)
    (hon : Severity.isDisabled value = false) (target : RuleTarget)
    (hnew : target.canonicalId ∉ b.targets.map Prod.snd) :
    Sound (entries ++ [(id, value)]) (found ++ [(id, target)])
      { rules := b.rules.insert id (Severity.normalize value)
        targets := b.targets ++ [(id, target.canonicalId)]
        cache := b.cache ++ [(target.canonicalId, identifier b.cache.length)]
        imports := b.imports ++
          [⟨identifier b.cache.length, target.importPath, target.canonicalId⟩] } where
  table := entries_insert_of_new h.table isNew value
  shown := shown_append h.shown shown
  enabled := h.enabled_append hon target
  targets := h.targets_append id target
  imported := by
    rw [eraseDups_targets, if_neg hnew, ← h.imported, List.map_append]
    rfl
  distinct := by
    rw [List.map_append, List.nodup_append]
    refine ⟨h.distinct, List.nodup_singleton _, ?_⟩
    rintro known hknown new hlast rfl
    have hlast : known = target.canonicalId := List.mem_singleton.1 hlast
    rw [h.imported, List.mem_eraseDups, hlast] at hknown
    exact hnew hknown
  numbered := by
    rw [List.map_append, h.numbered, List.length_append, List.length_singleton,
      List.range_succ, List.map_append]
    simp [h.cached]
  cached := by
    rw [List.map_append, ← h.cached]
    rfl
  paths := by
    intro record hrecord
    rcases List.mem_append.1 hrecord with hrecord | hrecord
    · exact path_append _ (h.paths record hrecord)
    · obtain rfl := List.mem_singleton.1 hrecord
      rw [List.find?_append, h.find?_new hnew]
      simp

/-- **A rule that is on** adds a target, and an import for a new canonical id. -/
theorem Sound.on (h : Sound entries found b) (isNew : ∀ e ∈ entries, e.1.same id = false)
    (shown : ∃ j, Json.ofValue (Severity.normalize value) = .ok j)
    (hon : Severity.isDisabled value = false) (target : RuleTarget) :
    Sound (entries ++ [(id, value)]) (found ++ [(id, target)])
      ({ b with rules := b.rules.insert id (Severity.normalize value) }.addTarget id target) := by
  by_cases hknown : b.imports? target.canonicalId = true
  · rw [addTarget_known _ id hknown]
    exact h.on_known isNew shown hon target ((h.imports?_iff _).1 hknown)
  · rw [addTarget_new _ id hknown]
    exact h.on_new isNew shown hon target fun hmem => hknown ((h.imports?_iff _).2 hmem)

end Step

/-! ## A whole run -/

/-- What a value that is accepted is normalized to. -/
theorem checkedValue_ok {id value normalized : Value} (h : checkedValue id value = .ok normalized) :
    normalized = Severity.normalize value ∧
      ∃ j, Json.ofValue (Severity.normalize value) = .ok j := by
  rw [checkedValue] at h
  cases hj : Json.ofValue (Severity.normalize value) with
  | ok j =>
    simp only [hj] at h
    exact ⟨(Except.ok.inj h).symm, j, rfl⟩
  | error cause =>
    simp only [hj] at h
    cases h

/-- A value with a JSON form is accepted. -/
theorem checkedValue_of_shown {id value : Value}
    (shown : ∃ j, Json.ofValue (Severity.normalize value) = .ok j) :
    checkedValue id value = .ok (Severity.normalize value) := by
  obtain ⟨j, hj⟩ := shown
  simp only [checkedValue, hj]

/-- **What adding a rule does**: its value is accepted; a rule that is off goes into the table
alone, and one that is on is asked for and gets a target. -/
theorem add_ok {b b' : Bundle} {id value : Value} {session session' : Session σ}
    (h : (b.add loader id value).runIn session = (.ok b', session')) :
    (∃ j, Json.ofValue (Severity.normalize value) = .ok j) ∧
      ((Severity.isDisabled value = true ∧ session' = session ∧
        b' = { b with rules := b.rules.insert id (Severity.normalize value) }) ∨
      (Severity.isDisabled value = false ∧ ∃ target,
        (Session.ruleTarget loader id).runIn session = (.ok target, session') ∧
        b' = ({ b with rules := b.rules.insert id (Severity.normalize value) }).addTarget id
          target)) := by
  obtain ⟨normalized, session₁, hchecked, h⟩ := Resolving.runIn_bind_eq_ok h
  rw [Resolving.runIn_ofExcept] at hchecked
  obtain ⟨haccepted, rfl⟩ := Prod.mk.inj hchecked
  obtain ⟨rfl, shown⟩ := checkedValue_ok haccepted
  refine ⟨shown, ?_⟩
  simp only [Severity.isDisabled_normalize] at h
  split at h
  · rename_i hoff
    rw [Resolving.runIn_pure] at h
    obtain ⟨hb, rfl⟩ := Prod.mk.inj h
    exact .inl ⟨hoff, rfl, (Except.ok.inj hb).symm⟩
  · rename_i hon
    obtain ⟨target, session₂, htarget, h⟩ := Resolving.runIn_bind_eq_ok h
    rw [Resolving.runIn_pure] at h
    obtain ⟨hb, rfl⟩ := Prod.mk.inj h
    exact .inr ⟨by simpa using hon, target, htarget, (Except.ok.inj hb).symm⟩

/-- A list of targets is found one after the other. -/
theorem targetsOf_cons {e : Value × Value} {entries : List (Value × Value)} {target : RuleTarget}
    {found : List (Value × RuleTarget)} {session session₁ session' : Session σ}
    (h₁ : (Session.ruleTarget loader e.1).runIn session = (.ok target, session₁))
    (h : (targetsOf loader entries).runIn session₁ = (.ok found, session')) :
    (targetsOf loader (e :: entries)).runIn session = (.ok ((e.1, target) :: found), session') := by
  simp only [targetsOf, bind_pure_comp] at h ⊢
  simp [List.mapM_cons, h₁, h]

/-- What is found was found for its id, in a session about which the same is known. -/
theorem mem_targetsOf_of_keeps {I : Session σ → Prop}
    (keeps : ∀ id, Resolving.Keeps I (Session.ruleTarget loader id))
    {entries : List (Value × Value)} {found : List (Value × RuleTarget)}
    {session session' : Session σ} (hs : I session)
    (h : (targetsOf loader entries).runIn session = (.ok found, session')) :
    ∀ e ∈ found, ∃ before after, I before ∧
      (Session.ruleTarget loader e.1).runIn before = (.ok e.2, after) := by
  induction entries generalizing found session session' with
  | nil =>
    obtain rfl : [] = found := Except.ok.inj (congrArg Prod.fst h)
    simp
  | cons e entries ih =>
    rw [targetsOf, List.mapM_cons] at h
    obtain ⟨e', session₁, hfirst, h⟩ := Resolving.runIn_bind_eq_ok h
    obtain ⟨later, session₂, hlater, h⟩ := Resolving.runIn_bind_eq_ok h
    obtain ⟨target, session₃, htarget, hfirst⟩ := Resolving.runIn_bind_eq_ok hfirst
    rw [Resolving.runIn_pure] at h hfirst
    obtain rfl := Except.ok.inj (congrArg Prod.fst h)
    obtain ⟨he', rfl⟩ := Prod.mk.inj hfirst
    obtain rfl := Except.ok.inj he'
    have hs' : I session₃ := by
      have := keeps e.1 session hs
      rwa [htarget] at this
    intro found hfound
    rcases List.mem_cons.1 hfound with rfl | hfound
    · exact ⟨_, _, hs, htarget⟩
    · exact ih hs' hlater found hfound

/-- What is found was found for its id. -/
theorem mem_targetsOf {entries : List (Value × Value)} {found : List (Value × RuleTarget)}
    {session session' : Session σ}
    (h : (targetsOf loader entries).runIn session = (.ok found, session')) :
    ∀ e ∈ found, ∃ before after,
      (Session.ruleTarget loader e.1).runIn before = (.ok e.2, after) := by
  intro e he
  obtain ⟨before, after, -, htarget⟩ :=
    mem_targetsOf_of_keeps (I := fun _ => True) (fun _ _ _ => trivial) trivial h e he
  exact ⟨before, after, htarget⟩

/-- **A run over more rules keeps a bundle sound**, and asks for the targets of those that are on,
one after the other. -/
theorem foldlM_add_sound {done more : List (Value × Value)} {found : List (Value × RuleTarget)}
    {b b' : Bundle} {session session' : Session σ} (hb : Sound done found b)
    (hd : (done ++ more).Pairwise fun a b => a.1.same b.1 = false)
    (h : Resolving.runIn (more.foldlM (fun b (id, value) => b.add loader id value) b) session
      = (.ok b', session')) :
    ∃ later, (targetsOf loader (enabled more)).runIn session = (.ok later, session') ∧
      Sound (done ++ more) (found ++ later) b' := by
  induction more generalizing done found b session with
  | nil =>
    rw [List.foldlM_nil, Resolving.runIn_pure] at h
    obtain ⟨hb', rfl⟩ := Prod.mk.inj h
    obtain rfl := Except.ok.inj hb'
    exact ⟨[], rfl, by simpa using hb⟩
  | cons e more ih =>
    obtain ⟨id, value⟩ := e
    rw [List.foldlM_cons] at h
    obtain ⟨b₁, session₁, hadd, h⟩ := Resolving.runIn_bind_eq_ok h
    have hd' : ((done ++ [(id, value)]) ++ more).Pairwise fun a b => a.1.same b.1 = false := by
      simpa using hd
    have isNew : ∀ e ∈ done, e.1.same id = false :=
      fun e he => (List.pairwise_append.1 hd).2.2 e he _ (List.mem_cons_self ..)
    obtain ⟨shown, ⟨hoff, rfl, rfl⟩ | ⟨hon, target, htarget, rfl⟩⟩ := add_ok hadd
    · obtain ⟨later, hlater, hsound⟩ := ih (hb.off isNew shown hoff) hd' h
      refine ⟨later, ?_, by simpa using hsound⟩
      rw [enabled, List.filter_cons_of_neg (by simp [hoff])]
      exact hlater
    · obtain ⟨later, hlater, hsound⟩ := ih (hb.on isNew shown hon target) hd' h
      refine ⟨(id, target) :: later, ?_, by simpa using hsound⟩
      rw [enabled, List.filter_cons_of_pos (by simp [hon])]
      exact targetsOf_cons htarget hlater

/-- **The bundle of a rule set is sound** for all its rules. -/
theorem ofRules_sound {rules : Ruleset} {b : Bundle} {session session' : Session σ}
    (h : (ofRules loader rules).runIn session = (.ok b, session')) :
    ∃ found, (targetsOf loader (enabled rules.entries)).runIn session = (.ok found, session') ∧
      Sound rules.entries found b := by
  obtain ⟨found, hfound, hsound⟩ := foldlM_add_sound Sound.empty (by simpa using rules.distinct) h
  exact ⟨found, hfound, by simpa using hsound⟩

/-- The table of a bundle holds the rules with their values normalized. -/
theorem rules_eq_mapValues {rules : Ruleset} {b : Bundle} {session session' : Session σ}
    (h : (ofRules loader rules).runIn session = (.ok b, session')) :
    b.rules = rules.mapValues Severity.normalize := by
  obtain ⟨found, -, hsound⟩ := ofRules_sound h
  exact Ruleset.ext hsound.table

/-- **A bundle of a configuration** is the bundle of the rules it inherits, merged with its own. -/
theorem ofConfig_ok {config : Value} {b : Bundle} {session session' : Session σ}
    (h : (ofConfig loader config).runIn session = (.ok b, session')) :
    ∃ document inherited session₁, Document.ofValue config = .ok document ∧
      (Extends.rulesOf loader document.parents).runIn session = (.ok inherited, session₁) ∧
      (ofRules loader (inherited.insertAll document.rules.entries)).runIn session₁
        = (.ok b, session') := by
  cases hd : Document.ofValue config with
  | error cause =>
    simp only [ofConfig, hd, Resolving.runIn_throw] at h
    cases h
  | ok document =>
    simp only [ofConfig, hd, ofDocument] at h
    obtain ⟨effective, session₁, heffective, h⟩ := Resolving.runIn_bind_eq_ok h
    obtain ⟨inherited, session₂, hinherited, heffective⟩ := Resolving.runIn_bind_eq_ok heffective
    rw [Resolving.runIn_pure] at heffective
    obtain ⟨hrules, rfl⟩ := Prod.mk.inj heffective
    obtain rfl := Except.ok.inj hrules
    exact ⟨document, inherited, session₂, rfl, hinherited, h⟩

/-! ## Rules that are off do not count -/

/-- The rule set of the rules that are on. -/
def enabledRules (rules : Ruleset) : Ruleset := ⟨enabled rules.entries, rules.distinct.filter _⟩

/-- Bundles that differ in their tables alone. -/
structure SameImports (b b' : Bundle) : Prop where
  imports : b.imports = b'.imports
  cache : b.cache = b'.cache
  targets : b.targets = b'.targets

theorem SameImports.addTarget {b b' : Bundle} (h : SameImports b b') (rules rules' : Ruleset)
    (id : Value) (target : RuleTarget) :
    SameImports ({ b with rules := rules }.addTarget id target)
      ({ b' with rules := rules' }.addTarget id target) := by
  have hsame : b'.imports? target.canonicalId = b.imports? target.canonicalId := by
    rw [imports?, imports?, h.cache]
  by_cases hknown : b.imports? target.canonicalId = true
  · rw [addTarget_known _ id hknown, addTarget_known _ id (hsame.trans hknown)]
    exact ⟨h.imports, h.cache, by rw [h.targets]⟩
  · rw [addTarget_new _ id hknown, addTarget_new _ id (fun h' => hknown (hsame.symm.trans h'))]
    exact ⟨by simp only [h.imports, h.cache], by simp only [h.cache], by simp only [h.targets]⟩

/-- Bundles with the same imports have them whatever rules they hold. -/
theorem SameImports.withRules {b b' : Bundle} (h : SameImports b b') (rules rules' : Ruleset) :
    SameImports { b with rules := rules } { b' with rules := rules' } :=
  ⟨h.imports, h.cache, h.targets⟩

/-- Adding a rule that is on, to any bundle. -/
theorem add_on {id value : Value} {target : RuleTarget} {session session' : Session σ} (b : Bundle)
    (shown : ∃ j, Json.ofValue (Severity.normalize value) = .ok j)
    (hon : Severity.isDisabled value = false)
    (htarget : (Session.ruleTarget loader id).runIn session = (.ok target, session')) :
    (b.add loader id value).runIn session
      = (.ok (({ b with rules := b.rules.insert id (Severity.normalize value) }).addTarget id
          target), session') := by
  simp [add, checkedValue_of_shown shown, hon, htarget]

/-- **Adding a rule that is off** asks for nothing. -/
theorem add_off {id value : Value} (session : Session σ) (b : Bundle)
    (shown : ∃ j, Json.ofValue (Severity.normalize value) = .ok j)
    (hoff : Severity.isDisabled value = true) :
    (b.add loader id value).runIn session
      = (.ok { b with rules := b.rules.insert id (Severity.normalize value) }, session) := by
  simp [add, checkedValue_of_shown shown, hoff]

/-- Where a rule that is off was added, that is all that happened. -/
theorem add_ok_of_off {b b' : Bundle} {id value : Value} {session session' : Session σ}
    (hoff : Severity.isDisabled value = true)
    (h : (b.add loader id value).runIn session = (.ok b', session')) :
    session' = session ∧ b' = { b with rules := b.rules.insert id (Severity.normalize value) } := by
  obtain ⟨-, ⟨-, hsession, hb'⟩ | ⟨hon, -⟩⟩ := add_ok h
  · exact ⟨hsession, hb'⟩
  · rw [hoff] at hon
    cases hon

/-- **Adding a rule to bundles with the same imports** keeps their imports the same. -/
theorem SameImports.add {b b₀ b' : Bundle} (h₀ : SameImports b b₀) {id value : Value}
    {session session' : Session σ}
    (h : (b.add loader id value).runIn session = (.ok b', session')) :
    ∃ b₁, (b₀.add loader id value).runIn session = (.ok b₁, session') ∧ SameImports b' b₁ := by
  obtain ⟨shown, ⟨hoff, rfl, rfl⟩ | ⟨hon, target, htarget, rfl⟩⟩ := add_ok h
  · exact ⟨_, add_off _ b₀ shown hoff, h₀.withRules _ _⟩
  · exact ⟨_, add_on b₀ shown hon htarget, h₀.addTarget _ _ id target⟩

/-- **Rules of which some that are off are left out**, or have other values that turn them off. -/
inductive Trimmed : List (Value × Value) → List (Value × Value) → Prop
  | nil : Trimmed [] []
  | keep {l l' : List (Value × Value)} (e : Value × Value) (h : Trimmed l l') :
      Trimmed (e :: l) (e :: l')
  | leaveOut {l l' : List (Value × Value)} {e : Value × Value}
      (off : Severity.isDisabled e.2 = true) (h : Trimmed l l') : Trimmed (e :: l) l'
  | revalue {l l' : List (Value × Value)} {id value value' : Value}
      (off : Severity.isDisabled value = true) (off' : Severity.isDisabled value' = true)
      (shown : ∃ j, Json.ofValue value' = .ok j) (h : Trimmed l l') :
      Trimmed ((id, value) :: l) ((id, value') :: l')

/-- The rules that are on are left when all others are left out. -/
theorem trimmed_enabled (entries : List (Value × Value)) : Trimmed entries (enabled entries) := by
  induction entries with
  | nil => exact .nil
  | cons e entries ih =>
    cases hon : Severity.isDisabled e.2 with
    | true =>
      rw [enabled, List.filter_cons_of_neg (by simp [hon])]
      exact .leaveOut hon ih
    | false =>
      rw [enabled, List.filter_cons_of_pos (by simp [hon])]
      exact .keep e ih

/-- **Runs over trimmed rules stay beside one another**: they come to the same imports, and to the
same session. -/
theorem foldlM_add_trimmed {more more' : List (Value × Value)} (h : Trimmed more more')
    {b₀ b b' : Bundle} {session session' : Session σ} (h₀ : SameImports b b₀)
    (hrun : Resolving.runIn (more.foldlM (fun b (id, value) => b.add loader id value) b) session
      = (.ok b', session')) :
    ∃ b₁, Resolving.runIn (more'.foldlM (fun b (id, value) => b.add loader id value) b₀) session
        = (.ok b₁, session') ∧ SameImports b' b₁ := by
  induction h generalizing b b₀ session with
  | nil =>
    rw [List.foldlM_nil, Resolving.runIn_pure] at hrun
    obtain ⟨hb', rfl⟩ := Prod.mk.inj hrun
    obtain rfl := Except.ok.inj hb'
    exact ⟨b₀, rfl, h₀⟩
  | keep e _ ih =>
    rw [List.foldlM_cons] at hrun
    obtain ⟨b₁, session₁, hadd, hrun⟩ := Resolving.runIn_bind_eq_ok hrun
    obtain ⟨b₂, hadd', h₁⟩ := h₀.add hadd
    rw [List.foldlM_cons, Resolving.runIn_bind, hadd']
    exact ih h₁ hrun
  | leaveOut off _ ih =>
    rw [List.foldlM_cons] at hrun
    obtain ⟨b₁, session₁, hadd, hrun⟩ := Resolving.runIn_bind_eq_ok hrun
    obtain ⟨rfl, rfl⟩ := add_ok_of_off off hadd
    exact ih (h₀.withRules _ b₀.rules) hrun
  | revalue off off' shown' _ ih =>
    rw [List.foldlM_cons] at hrun
    obtain ⟨b₁, session₁, hadd, hrun⟩ := Resolving.runIn_bind_eq_ok hrun
    obtain ⟨rfl, rfl⟩ := add_ok_of_off off hadd
    rw [List.foldlM_cons, Resolving.runIn_bind,
      add_off _ b₀ (Severity.shown_normalize shown') off']
    exact ih (h₀.withRules _ _) hrun

/-- **A run over the rules that are on alone** comes to the same imports. -/
theorem foldlM_add_enabled {more : List (Value × Value)} {b₀ b b' : Bundle}
    {session session' : Session σ} (h₀ : SameImports b b₀)
    (h : Resolving.runIn (more.foldlM (fun b (id, value) => b.add loader id value) b) session
      = (.ok b', session')) :
    ∃ b₁, Resolving.runIn ((enabled more).foldlM (fun b (id, value) => b.add loader id value) b₀)
        session = (.ok b₁, session') ∧ SameImports b' b₁ :=
  foldlM_add_trimmed (trimmed_enabled more) h₀ h

/-! ## The invariant -/

/-- **What the bundle of a rule set is**, given where the rules that are on were found. -/
structure Invariant (rules : Ruleset) (found : List (Value × RuleTarget)) (b : Bundle) :
    Prop where
  /-- The table has the ids of the rules in their order, each with its value normalized. -/
  table : b.rules.entries = rules.entries.map fun e => (e.1, Severity.normalize e.2)
  /-- The targets are those of the rules that are on, in order. -/
  enabled : b.targets.map Prod.fst = (enabled rules.entries).map Prod.fst
  /-- Each target is the canonical id that was found. -/
  targets : b.targets = found.map fun e => (e.1, e.2.canonicalId)
  /-- The imports have the canonical ids of the targets, in the order of their first occurrences. -/
  imported : b.imports.map ImportRecord.canonicalId = (b.targets.map Prod.snd).eraseDups
  /-- The cache has the same canonical ids in the same order. -/
  cached : b.cache.map Prod.fst = (b.targets.map Prod.snd).eraseDups
  /-- No canonical id is imported twice. -/
  distinct : (b.imports.map ImportRecord.canonicalId).Nodup
  /-- The import of each place is called `rule_` and the number of the place, and the cache entry
  there has its canonical id and its name. -/
  numbered : ∀ i record, b.imports[i]? = some record →
    record.identifier = "rule_" ++ Text.ofChars (Nat.toDigits 10 i) ∧
      b.cache[i]? = some (record.canonicalId, record.identifier)
  /-- An import has the path of the first rule found with its canonical id. -/
  paths : ∀ record ∈ b.imports,
    (found.find? fun e => e.2.canonicalId = record.canonicalId).map (fun e => e.2.importPath)
      = some record.path
  /-- A rule that is off has no target. -/
  disabled : ∀ e ∈ rules.entries, Severity.isDisabled e.2 = true →
    ∀ target ∈ b.targets, target.1.same e.1 = false
  enabledCount_eq : b.enabledCount = b.cache.length ∧ b.cache.length = b.imports.length
  enabledCount_le : b.enabledCount ≤ b.targets.length
  counts : b.targets.length + b.disabledCount = b.rules.size

theorem length_enabled_add (entries : List (Value × Value)) :
    (enabled entries).length + (entries.filter fun e => Severity.isDisabled e.2).length
      = entries.length := by
  induction entries with
  | nil => rfl
  | cons e entries ih =>
    cases h : Severity.isDisabled e.2 <;> simp [enabled, h] at * <;> omega

/-- A rule that is off has no target. -/
theorem Sound.no_target {rules : Ruleset} {found : List (Value × RuleTarget)} {b : Bundle}
    (h : Sound rules.entries found b) {e : Value × Value} (he : e ∈ rules.entries)
    (hoff : Severity.isDisabled e.2 = true) : ∀ target ∈ b.targets, target.1.same e.1 = false := by
  intro target htarget
  have hid : target.1 ∈ (Bundle.enabled rules.entries).map Prod.fst := by
    rw [← h.enabled]
    rw [h.targets] at htarget
    obtain ⟨found₁, hfound, rfl⟩ := List.mem_map.1 htarget
    exact List.mem_map_of_mem hfound
  obtain ⟨e', he', heq⟩ := List.mem_map.1 hid
  obtain ⟨he', hon⟩ := List.mem_filter.1 he'
  have hne : e' ≠ e := by
    rintro rfl
    simp [hoff] at hon
  have hsymm : Std.Symm fun a b : Value × Value => a.1.same b.1 = false :=
    ⟨fun a b hab => (Value.same_comm ..).trans hab⟩
  rw [← heq]
  exact rules.distinct.forall he' he hne

/-- The rules that are on have a target each, and the others are off. -/
theorem Sound.counts {rules : Ruleset} {found : List (Value × RuleTarget)} {b : Bundle}
    (h : Sound rules.entries found b) : b.targets.length + b.disabledCount = b.rules.size := by
  have hon : b.targets.length = (Bundle.enabled rules.entries).length := by
    rw [h.targets, List.length_map]
    simpa using congrArg List.length h.enabled
  have hoff : b.disabledCount = (rules.entries.filter fun e => Severity.isDisabled e.2).length := by
    rw [disabledCount, h.table, List.filter_map, List.length_map]
    simp only [Function.comp_def, Severity.isDisabled_normalize]
  have hall : b.rules.size = rules.entries.length := by
    rw [Ruleset.size, h.table, List.length_map]
  rw [hon, hoff, hall]
  exact length_enabled_add rules.entries

theorem Sound.invariant {rules : Ruleset} {found : List (Value × RuleTarget)} {b : Bundle}
    (h : Sound rules.entries found b) : Invariant rules found b where
  table := h.table
  enabled := by
    rw [h.targets, List.map_map, ← h.enabled]
    rfl
  targets := h.targets
  imported := h.imported
  cached := by
    rw [h.cached, List.map_map, ← h.imported]
    rfl
  distinct := h.distinct
  numbered := by
    intro i record hrecord
    have hname : record.identifier = identifier i := by
      have hplace := congrArg (·[i]?) h.numbered
      obtain ⟨hi, rfl⟩ := List.getElem?_eq_some_iff.1 hrecord
      simpa [hi] using hplace
    refine ⟨hname, ?_⟩
    rw [h.cached, List.getElem?_map, hrecord, Option.map_some]
  paths := h.paths
  disabled := fun _ he hoff => h.no_target he hoff
  enabledCount_eq := by
    rw [enabledCount, h.cached, List.length_map]
    exact ⟨rfl, rfl⟩
  enabledCount_le := by
    have hsub : b.imports.map ImportRecord.canonicalId ⊆ b.targets.map Prod.snd := by
      intro id hid
      rwa [h.imported, List.mem_eraseDups] at hid
    simpa [enabledCount] using (List.subperm_of_subset h.distinct hsub).length_le
  counts := h.counts

/-- **The bundle invariant.**  Where bundling a rule set succeeds, so does asking for the targets of
the rules that are on, one after the other, and the bundle is what these targets make it; and the
rules that are on, bundled alone, have the same imports, cache and targets. -/
theorem bundle_invariant {rules : Ruleset} {b : Bundle} {session session' : Session σ}
    (h : (ofRules loader rules).runIn session = (.ok b, session')) :
    (∃ found, (targetsOf loader (enabled rules.entries)).runIn session = (.ok found, session') ∧
      Invariant rules found b) ∧
    ∃ alone, (ofRules loader (enabledRules rules)).runIn session = (.ok alone, session') ∧
      SameImports b alone := by
  obtain ⟨found, hfound, hsound⟩ := ofRules_sound h
  refine ⟨⟨found, hfound, hsound.invariant⟩, ?_⟩
  exact foldlM_add_enabled ⟨rfl, rfl, rfl⟩ h

/-- Three rules, two of them one rule under two names, and one off. -/
def threeRules : Ruleset := .ofList
  [(.str "bpmnlint/global", .str "warn"), (.str "fake-join", .str "off"), (.str "global", .int 2)]

/-- One rule is imported for two names; the rule that is off is not. -/
theorem bundle_invariant_threeRules :
    ∃ b session', (ofRules (Loader.builtin none) threeRules).runIn (Session.start ())
        = (.ok b, session') ∧
      b.imports = [⟨"rule_0", "bpmnlint/rules/global", "bpmnlint/global"⟩] ∧
      ∃ found, Invariant threeRules found b := by
  refine ⟨_, _, rfl, rfl, ?_⟩
  obtain ⟨⟨found, _, hinvariant⟩, _⟩ :=
    @bundle_invariant Unit (Loader.builtin none) threeRules _ (Session.start ()) _ rfl
  exact ⟨found, hinvariant⟩

end Bundle

end LintBundle
