import LintBundle.Proofs.Chaining
import LintBundle.Proofs.Reporting
import LintBundle.Proofs.Spelling
import LintBundle.Proofs.Targets

/-!
# Proofs/Offenders — the fault of a bundle is that of its first offender

    value without a JSON form  ▸  (off: never bad)  ▸  id that names no rule  ▸  rule not found

What is wrong with an entry of a rule set is said without running anything (`Bad`), and does not
depend on the entries before it.  So a bundle fails exactly where an entry is bad, with the fault of
the first one (`fails_on_first_offender`) — unless that fault shows an id with a number that is too
long to be written, which is the fault then (`longId_not_shown`).
-/

namespace LintBundle

/-- What can be written is shown. -/
theorem Fault.showing_of_short {v : Value} (h : v.hasLongNumber = false) (fault : Fault) :
    Fault.showing v fault = fault := by
  rw [Fault.showing, h]
  rfl

/-- What cannot be written is a fault by itself. -/
theorem Fault.showing_of_long {v : Value} (h : v.hasLongNumber = true) (fault : Fault) :
    Fault.showing v fault = .numberTooLong := by
  rw [Fault.showing, h]
  rfl

/-! ## Ids that name a rule -/

namespace Naming

/-- **A well-formed id**: no piece of it is empty, and behind a scope there are a plugin and a
rule. -/
structure WellFormed (id : List Point) : Prop where
  segmented : Segmented id
  complete : id.head? = some (.char '@') → 2 < (segments id).length

/-- A scoped id of at least three pieces, cut. -/
theorem exists_rule?_scoped {id : List Point} (hs : id.head? = some (.char '@')) :
    (∃ rule, rule? id = some rule) ↔ WellFormed id := by
  rcases hp : segments id with _ | ⟨scope, _ | ⟨owner, _ | ⟨piece, more⟩⟩⟩
  · exact absurd hp (Text.split_ne_nil _ _)
  · exact iff_of_false (by simp [rule?, hs, hp]) fun h => by simpa [hp] using h.complete hs
  · exact iff_of_false (by simp [rule?, hs, hp]) fun h => by simpa [hp] using h.complete hs
  · have hfull : Segmented id ↔ (scope :: owner :: piece :: more).any List.isEmpty = false := by
      rw [any_isEmpty_eq_false, Segmented, hp]
    rw [rule?_inScope hs hp (List.cons_ne_nil _ _)]
    constructor
    · rintro ⟨rule, h⟩
      have hany := (Option.ite_none_left_eq_some.1 h).1
      exact ⟨hfull.2 (Bool.not_eq_true _ ▸ hany), fun _ => by simp [hp]⟩
    · intro h
      exact ⟨_, if_neg (by simp [hfull.1 h.segmented])⟩

/-- An id without a scope. -/
theorem exists_rule?_alone {id : List Point} (hs : id.head? ≠ some (.char '@')) :
    (∃ rule, rule? id = some rule) ↔ WellFormed id := by
  rcases hp : segments id with _ | ⟨owner, _ | ⟨piece, more⟩⟩
  · exact absurd hp (Text.split_ne_nil _ _)
  · obtain ⟨-, rfl⟩ := Text.notMem_of_split hp
    have hfull : Segmented id ↔ id ≠ [] := by simp [Segmented, hp]
    refine ⟨fun ⟨rule, h⟩ => ⟨hfull.2 ?_, fun h => absurd h hs⟩, fun h => ?_⟩
    · rintro rfl
      simp [rule?, hp] at h
    · exact ⟨⟨.builtin, Text.ofList id⟩, by simp [rule?, hs, hp, hfull.1 h.segmented]⟩
  · have hfull : Segmented id ↔ (owner :: piece :: more).any List.isEmpty = false := by
      rw [any_isEmpty_eq_false, Segmented, hp]
    rw [rule?_alone hs hp (List.cons_ne_nil _ _)]
    constructor
    · rintro ⟨rule, h⟩
      have hany := (Option.ite_none_left_eq_some.1 h).1
      exact ⟨hfull.2 (Bool.not_eq_true _ ▸ hany), fun h => absurd h hs⟩
    · intro h
      exact ⟨_, if_neg (by simp [hfull.1 h.segmented])⟩

/-- **The texts that name a rule are the well-formed ones.** -/
theorem exists_rule?_iff {id : List Point} : (∃ rule, rule? id = some rule) ↔ WellFormed id := by
  by_cases hs : id.head? = some (.char '@')
  · exact exists_rule?_scoped hs
  · exact exists_rule?_alone hs

/-- **Whatever names no rule is reported as that**: what is no text, and ill-formed texts. -/
theorem rule_error_iff {id : Value} {fault : Fault} :
    rule id = .error fault ↔
      (¬ ∃ text : Text, id = .str text ∧ WellFormed text.toList) ∧
        fault = .showing id (.invalidRuleName id) := by
  have accepted : (∃ found, rule id = .ok found) ↔
      ∃ text : Text, id = .str text ∧ WellFormed text.toList := by
    simp only [readsTexts_rule.eq_ok_iff, ← exists_rule?_iff]
    rw [exists_comm]
    simp only [exists_and_left]
  rw [readsTexts_rule.eq_error_iff, accepted, Fault.showing]

end Naming

/-! ## Rules that are not found -/

namespace Session

variable {f : Text → Except Fault Value}

/-- What a package file has to declare. -/
def Declares (exported : Value) (name : Text) : Prop :=
  exported.field? "name" = some (.str name) ∧ name ≠ ""

/-- The fault of a package file without a name. -/
def unnamed : Fault := .notFound packageFile "package manifest declares no name"

/-- A name is read exactly where one is declared. -/
theorem declaredName_ok_iff {exported : Value} {name : Text} :
    declaredName exported = .ok name ↔ Declares exported name := by
  rw [declaredName, Declares]
  split
  · rename_i name' hname
    by_cases hempty : name' = ""
    · simp [hname, hempty, eq_comm]
    · simp only [hname, hempty, if_false, Except.ok.injEq, Option.some.injEq, Value.str.injEq]
      exact ⟨fun h => ⟨h, h ▸ hempty⟩, And.left⟩
  · rename_i hno
    exact iff_of_false (by simp) fun h => hno name h.1

/-- There is one way for a package file to have no name. -/
theorem declaredName_error_iff {exported : Value} {fault : Fault} :
    declaredName exported = .error fault ↔
      (∀ name, ¬ Declares exported name) ∧ fault = unnamed := by
  simp only [← declaredName_ok_iff]
  rw [declaredName]
  split
  · split <;> simp [unnamed, eq_comm]
  · simp [unnamed, eq_comm]

/-- **A plugin whose package is known**: the package being compiled has a file that names it. -/
def Packaged (f : Text → Except Fault Value) (plugin : PluginRef) : Prop :=
  plugin.isLocal = true → ∃ exported name, f packageFile = .ok exported ∧ Declares exported name

theorem exists_packageBy_iff {plugin : PluginRef} :
    (∃ package, packageBy f plugin = .ok package) ↔ Packaged f plugin := by
  rw [Packaged]
  cases hl : plugin.isLocal with
  | false => exact iff_of_true ⟨_, by rw [packageBy, hl]; rfl⟩ (by simp)
  | true =>
    simp only [packageBy, hl, localNameBy, if_true, forall_const]
    cases f packageFile with
    | error fault => simp [bind, Except.bind]
    | ok exported => simp [bind, Except.bind, declaredName_ok_iff]

/-- **What keeps a rule from being found**, in the order in which it is looked at. -/
inductive Unfound (f : Text → Except Fault Value) (rule : RuleName) : Fault → Prop
  /-- The file of the package being compiled is not served. -/
  | unserved {fault : Fault} (hl : rule.plugin.isLocal = true)
      (hfile : f packageFile = .error fault) : Unfound f rule fault
  /-- The file of the package being compiled declares no name. -/
  | unnamed {exported : Value} (hl : rule.plugin.isLocal = true)
      (hfile : f packageFile = .ok exported) (hname : ∀ name, ¬ Declares exported name) :
      Unfound f rule unnamed
  /-- The plugin is there, and cannot be loaded. -/
  | broken {fault : Fault} (hp : Packaged f rule.plugin)
      (hload : f (specifier rule.plugin) = .error fault) (hthere : fault.isNotFound = false) :
      Unfound f rule fault
  /-- The plugin exports the rule as something else than a path. -/
  | illegal {exported value : Value} (hp : Packaged f rule.plugin)
      (hload : f (specifier rule.plugin) = .ok exported)
      (hrule : (Manifest.ofValue exported).rule? rule.name = some value)
      (hpath : ∀ path, value ≠ .str path) :
      Unfound f rule (.illegalRuleExport rule.name (specifier rule.plugin))

/-- The package is not known for want of a file, or of a name in it. -/
theorem packageBy_error_iff {plugin : PluginRef} {fault : Fault} :
    packageBy f plugin = .error fault ↔ plugin.isLocal = true ∧ (f packageFile = .error fault ∨
      ∃ exported, f packageFile = .ok exported ∧
        (∀ name, ¬ Declares exported name) ∧ fault = unnamed) := by
  rw [packageBy]
  cases hl : plugin.isLocal with
  | false => simp
  | true => simp only [localNameBy, if_true, true_and, bind_eq_error_iff, declaredName_error_iff]

/-- Faults of a plugin that is there are passed on. -/
theorem orEmpty_manifestBy_error_iff {plugin : PluginRef} {fault : Fault} :
    orEmpty (manifestBy f (specifier plugin)) = .error fault ↔
      f (specifier plugin) = .error fault ∧ fault.isNotFound = false := by
  rw [manifestBy]
  cases f (specifier plugin) with
  | ok exported => simp [orEmpty, Except.map]
  | error fault' =>
    cases fault' with
    | notFound =>
      refine iff_of_false (by simp [orEmpty, Except.map]) ?_
      rintro ⟨h, hno⟩
      cases h
      cases hno
    | _ =>
      simp only [orEmpty, Except.map, Except.error.injEq]
      exact ⟨fun h => ⟨h, h ▸ rfl⟩, And.left⟩

/-- Of what a plugin exports, only a rule that is no path is a fault. -/
theorem rulePath_error_iff {m : Manifest} {specifier name : Text} {fault : Fault} :
    rulePath m specifier name = .error fault ↔
      (∃ value, m.rule? name = some value ∧ ∀ path, value ≠ .str path) ∧
        fault = .illegalRuleExport name specifier := by
  rw [rulePath]
  split
  · rename_i hnone
    simp [hnone]
  · rename_i path hpath
    simp [hpath]
  · rename_i value hpath hvalue
    simp only [hvalue, Except.error.injEq, Option.some.injEq, exists_eq_left']
    exact ⟨fun h => ⟨hpath, h.symm⟩, fun h => h.2.symm⟩

/-- **A rule has no target exactly where something keeps it from being found.** -/
theorem targetOf_error_iff {rule : RuleName} {fault : Fault} :
    targetOf f rule = .error fault ↔ Unfound f rule fault := by
  simp only [targetOf, bind_eq_error_iff, packageBy_error_iff, orEmpty_manifestBy_error_iff,
    rulePath_error_iff, pure, Except.pure, reduceCtorEq, and_false, exists_false, or_false]
  constructor
  · rintro (⟨hl, hfile | ⟨exported, hfile, hname, rfl⟩⟩ |
      ⟨package, hp, ⟨hload, hthere⟩ | ⟨m, hm, ⟨value, hrule, hpath⟩, rfl⟩⟩)
    · exact .unserved hl hfile
    · exact .unnamed hl hfile hname
    · exact .broken (exists_packageBy_iff.1 ⟨package, hp⟩) hload hthere
    · cases hload : f (specifier rule.plugin) with
      | ok exported =>
        rw [manifestBy, hload] at hm
        obtain rfl : Manifest.ofValue exported = m := Except.ok.inj hm
        exact .illegal (exists_packageBy_iff.1 ⟨package, hp⟩) hload hrule hpath
      | error fault =>
        -- The manifest of a plugin that is not there is empty, so it exports no rule.
        rw [manifestBy, hload] at hm
        cases fault <;> cases hm
        cases hrule
  · rintro (⟨hl, hfile⟩ | ⟨hl, hfile, hname⟩ | ⟨hp, hload, hthere⟩ | ⟨hp, hload, hrule, hpath⟩)
    · exact .inl ⟨hl, .inl hfile⟩
    · exact .inl ⟨hl, .inr ⟨_, hfile, hname, rfl⟩⟩
    · obtain ⟨package, hp⟩ := exists_packageBy_iff.2 hp
      exact .inr ⟨package, hp, .inl ⟨hload, hthere⟩⟩
    · obtain ⟨package, hp⟩ := exists_packageBy_iff.2 hp
      refine .inr ⟨package, hp, .inr ⟨_, ?_, ⟨_, hrule, hpath⟩, rfl⟩⟩
      rw [manifestBy, hload]
      rfl

end Session

/-! ## Bad entries -/

namespace Bundle

open Session (Unfound targetBy Consistent)

variable {σ : Type} {loader : Loader σ} {f : Text → Except Fault Value}

/-- **What is wrong with an entry of a rule set**, in the order in which it is looked at.  Nothing
but its value is looked at in one that is off. -/
inductive Bad (f : Text → Except Fault Value) (id value : Value) : Fault → Prop
  /-- The value has no JSON form. -/
  | value {cause : JsonFault} (hvalue : Json.ofValue (Severity.normalize value) = .error cause) :
      Bad f id value (.invalidRuleValue id.display cause.message)
  /-- The id of a rule that is on is no text, or an ill-formed one. -/
  | name (shown : ∃ j, Json.ofValue (Severity.normalize value) = .ok j)
      (hon : Severity.isDisabled value = false)
      (hname : ¬ ∃ text : Text, id = .str text ∧ Naming.WellFormed text.toList) :
      Bad f id value (.invalidRuleName id)
  /-- The rule is on, and is not found. -/
  | target {rule : RuleName} {fault : Fault}
      (shown : ∃ j, Json.ofValue (Severity.normalize value) = .ok j)
      (hon : Severity.isDisabled value = false) (hrule : Naming.rule id = .ok rule)
      (hno : Unfound f rule fault) : Bad f id value fault

/-- A rule that is on has no target if its id names none, or if the rule is not found. -/
theorem targetBy_error_iff {id : Value} {fault : Fault} :
    targetBy f id = .error fault ↔ Naming.rule id = .error fault ∨
      ∃ rule, Naming.rule id = .ok rule ∧ Unfound f rule fault := by
  simp only [targetBy, bind_eq_error_iff, Session.targetOf_error_iff]

/-- A rule that is on is refused for want of a target. -/
theorem addBy_error_iff_of_enabled {b : Bundle} {id value : Value} {fault : Fault}
    (shown : ∃ j, Json.ofValue (Severity.normalize value) = .ok j)
    (hon : Severity.isDisabled value = false) :
    addBy f b id value = .error fault ↔ targetBy f id = .error fault := by
  simp [addBy_of_enabled b shown hon, bind_eq_error_iff, pure, Except.pure]

/-- **An entry is refused exactly if it is bad**, whatever the bundle holds already. -/
theorem addBy_error_iff {b : Bundle} {id value : Value} {fault : Fault} :
    addBy f b id value = .error fault ↔
      ∃ expected, Bad f id value expected ∧ fault = .showing id expected := by
  constructor
  · intro h
    cases hvalue : Json.ofValue (Severity.normalize value) with
    | error cause =>
      rw [addBy_of_unshown b hvalue] at h
      exact ⟨_, .value hvalue, (Except.error.inj h).symm⟩
    | ok j =>
      have shown : ∃ j, Json.ofValue (Severity.normalize value) = .ok j := ⟨j, hvalue⟩
      cases hon : Severity.isDisabled value with
      | true =>
        rw [addBy_of_disabled b shown hon] at h
        cases h
      | false =>
        rw [addBy_error_iff_of_enabled shown hon, targetBy_error_iff] at h
        rcases h with h | ⟨rule, hrule, hno⟩
        · obtain ⟨hname, rfl⟩ := Naming.rule_error_iff.1 h
          exact ⟨_, .name shown hon hname, rfl⟩
        · obtain ⟨text, rfl, -⟩ := Naming.rule_eq_ok hrule
          exact ⟨_, .target shown hon hrule hno, (Fault.showing_of_short rfl _).symm⟩
  · rintro ⟨expected, hbad, rfl⟩
    cases hbad with
    | value hvalue => exact addBy_of_unshown b hvalue
    | name shown hon hname =>
      rw [addBy_error_iff_of_enabled shown hon, targetBy_error_iff]
      exact .inl (Naming.rule_error_iff.2 ⟨hname, rfl⟩)
    | target shown hon hrule hno =>
      obtain ⟨text, rfl, -⟩ := Naming.rule_eq_ok hrule
      rw [Fault.showing_of_short rfl, addBy_error_iff_of_enabled shown hon, targetBy_error_iff]
      exact .inr ⟨_, hrule, hno⟩

/-! ## The first offender -/

/-- An entry that is bad is not acceptable. -/
theorem not_acceptable_of_bad {e : Value × Value} {fault : Fault} (h : Bad f e.1 e.2 fault) :
    ¬ Acceptable f e := by
  intro hok
  obtain ⟨b', hb'⟩ := (addBy_ok_iff Bundle.empty e).2 hok
  have hfails : addBy f Bundle.empty e.1 e.2 = .error (.showing e.1 fault) :=
    addBy_error_iff.2 ⟨fault, h, rfl⟩
  rw [hb'] at hfails
  cases hfails

/-- **A bundle's fault is that of the first bad entry**, as far as the entry's id can be shown. -/
theorem bundleBy_error_iff {rules : Ruleset} {fault : Fault} :
    bundleBy f rules = .error fault ↔ ∃ before e after expected,
      rules.entries = before ++ e :: after ∧
      (∀ e' ∈ before, ∀ fault', ¬ Bad f e'.1 e'.2 fault') ∧
      Bad f e.1 e.2 expected ∧ fault = .showing e.1 expected := by
  have hstep (b : Bundle) (e : Value × Value) (fault : Fault) :
      addBy f b e.1 e.2 = .error fault ↔
        ∃ expected, Bad f e.1 e.2 expected ∧ fault = .showing e.1 expected := addBy_error_iff
  rw [bundleBy, foldlM_error_iff hstep]
  constructor
  · rintro ⟨before, e, after, hentries, hbefore, expected, hbad, rfl⟩
    exact ⟨before, e, after, expected, hentries,
      fun e' he' fault' h => hbefore e' he' _ ⟨fault', h, rfl⟩, hbad, rfl⟩
  · rintro ⟨before, e, after, expected, hentries, hbefore, hbad, rfl⟩
    refine ⟨before, e, after, hentries, ?_, expected, hbad, rfl⟩
    rintro e' he' _ ⟨fault', h, -⟩
    exact hbefore e' he' fault' h

/-- **Bundling fails exactly when it should, on the first offender.**  With a loader that answers by
a function there is a fault exactly if an entry is bad, and it is that of the first bad entry in
order; only where that entry's id has a number too long to be written, this is the fault instead. -/
theorem fails_on_first_offender {session : Session σ} (hs : Consistent loader f session)
    (rules : Ruleset) :
    ((∃ fault, ((ofRules loader rules).runIn session).1 = .error fault) ↔
      ∃ e ∈ rules.entries, ∃ fault, Bad f e.1 e.2 fault) ∧
    ∀ fault, ((ofRules loader rules).runIn session).1 = .error fault ↔
      ∃ before e after expected, rules.entries = before ++ e :: after ∧
        (∀ e' ∈ before, ∀ fault', ¬ Bad f e'.1 e'.2 fault') ∧
        Bad f e.1 e.2 expected ∧
        fault = if e.1.hasLongNumber then .numberTooLong else expected := by
  rw [(computes_ofRules rules).outcome hs]
  refine ⟨⟨?_, ?_⟩, fun fault => bundleBy_error_iff⟩
  · rintro ⟨fault, h⟩
    obtain ⟨before, e, after, expected, hentries, -, hbad, -⟩ := bundleBy_error_iff.1 h
    exact ⟨e, by simp [hentries], expected, hbad⟩
  · rintro ⟨e, he, fault, hbad⟩
    cases h : bundleBy f rules with
    | error fault => exact ⟨fault, rfl⟩
    | ok b => exact absurd ((bundleBy_ok_iff rules).1 ⟨b, h⟩ e he) (not_acceptable_of_bad hbad)

/-- Nothing is there. -/
def nowhere (specifier : Text) : Except Fault Value := .error (.notFound specifier none)

/-- A missing plugin, a rule that is off, and one of a package without a file. -/
def offenders : Ruleset := .ofList
  [(.str "foo/r", .str "error"), (.str "@acme/foo", .str "off"), (.str "local/r", .int 2),
    (.str "", .int 1)]

/-- Of four entries two are bad, and the first of these tells the fault. -/
theorem fails_on_first_offender_offenders : ∃ before e after expected,
    offenders.entries = before ++ e :: after ∧
    (∀ e' ∈ before, ∀ fault', ¬ Bad nowhere e'.1 e'.2 fault') ∧
    Bad nowhere e.1 e.2 expected ∧
    (.notFound "./package.json" none : Fault) =
      if e.1.hasLongNumber then .numberTooLong else expected := by
  have consistent := Consistent.start (Loader.answers_ofFunction nowhere 0 ())
  exact ((fails_on_first_offender consistent offenders).2 _).1 rfl

/-- A number of 4301 digits. -/
def longId : Value := .int (10 ^ 4300)

/-- **An id may be too long to be shown**: then its fault is no bad name. -/
theorem longId_not_shown :
    Consistent (Loader.ofFunction nowhere 0) nowhere (Session.start ()) ∧
    Bad nowhere longId (.str "error") (.invalidRuleName longId) ∧
    ((ofRules (Loader.ofFunction nowhere 0) (.ofList [(longId, .str "error")])).runIn
      (Session.start ())).1 = .error .numberTooLong := by
  have consistent := Consistent.start (Loader.answers_ofFunction nowhere 0 ())
  have hbad : Bad nowhere longId (.str "error") (.invalidRuleName longId) := by
    refine .name ⟨_, rfl⟩ rfl ?_
    rintro ⟨text, h, -⟩
    cases h
  have hlong : longId.hasLongNumber = true := by decide +kernel
  refine ⟨consistent, hbad, ?_⟩
  rw [(computes_ofRules _).outcome consistent]
  exact bundleBy_error_iff.2
    ⟨[], (longId, .str "error"), [], _, rfl, by simp, hbad, (Fault.showing_of_long hlong _).symm⟩

end Bundle

end LintBundle
