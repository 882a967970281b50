import LintBundle.Proofs.Chaining
import LintBundle.Proofs.Targets

/-!
# Proofs/Conventional — the conventional path is a transparent default

    no plugin, no rule, or the rule as "rules/<name>"  ▸  <package>/rules/<name>

A rule is conventional where its plugin is not found, does not declare it, or declares it by its
conventional path (`Conventional`), and these are all the ways to be imported from there
(`conventional_iff`).  So a bundle does not tell apart loaders that differ in which of these ways
they take, plugin by plugin (`conventional_path_transparent`).
-/

namespace LintBundle

namespace Session

variable {f g : Text → Except Fault Value} {rule : RuleName}

/-! ## Paths -/

/-- The path of a rule in its package, as a function serves its plugin. -/
def pathBy (f : Text → Except Fault Value) (rule : RuleName) : Except Fault Text := do
  rulePath (← orEmpty (manifestBy f (specifier rule.plugin))) (specifier rule.plugin) rule.name

/-- A target is made of a package and a path in it. -/
theorem targetOf_eq (f : Text → Except Fault Value) (rule : RuleName) :
    targetOf f rule = do
      let package ← packageBy f rule.plugin
      let path ← pathBy f rule
      return {
        importPath := (if rule.plugin.isLocal then "." else package : Text) ++ "/" ++ path
        canonicalId := package ++ "/" ++ rule.name } := by
  rw [targetOf]
  cases packageBy f rule.plugin with
  | error fault => rfl
  | ok package =>
    simp only [pathBy, bind, Except.bind]
    cases orEmpty (manifestBy f (specifier rule.plugin)) <;> rfl

/-- The path of a rule that is not told otherwise. -/
def conventionalPath (rule : RuleName) : Text := "rules/" ++ rule.name

/-- **A rule that is where rules conventionally are.** -/
inductive Conventional (f : Text → Except Fault Value) (rule : RuleName) : Prop
  /-- Its plugin is not found. -/
  | missing {name : Text} {reason : Option Text}
      (hload : f (specifier rule.plugin) = .error (.notFound name reason))
  /-- Its plugin does not declare it. -/
  | undeclared {exported : Value} (hload : f (specifier rule.plugin) = .ok exported)
      (hrule : (Manifest.ofValue exported).rule? rule.name = none)
  /-- Its plugin declares it by the conventional path. -/
  | declared {exported : Value} {path : Text} (hload : f (specifier rule.plugin) = .ok exported)
      (hrule : (Manifest.ofValue exported).rule? rule.name = some (.str path))
      (hpath : path = conventionalPath rule ∨ path = "./" ++ conventionalPath rule)

/-- **A plugin without a mapping of rules declares none**: what is no mapping and no module, and
what has no such field or something else in it. -/
theorem Conventional.of_no_rules {exported : Value}
    (hload : f (specifier rule.plugin) = .ok exported)
    (hrules : (exported.field? "rules").bind Value.entries? = none) : Conventional f rule := by
  refine .undeclared hload ?_
  have hnone : (Manifest.ofValue exported).rules = [] := by
    rw [Manifest.ofValue, Value.fieldEntries, hrules]
    rfl
  rw [Manifest.rule?, hnone]
  rfl

/-- **The built-in rules are conventional** where the built-in package is served as it is. -/
theorem Conventional.of_builtin (hload : f builtinPackage = .ok Builtin.manifest)
    (hplugin : rule.plugin = .builtin) : Conventional f rule := by
  have hload : f (specifier rule.plugin) = .ok Builtin.manifest := by rw [hplugin]; exact hload
  have shipped : (Manifest.ofValue Builtin.manifest).rules =
      Builtin.rules.map fun name => (.str name, .str ("rules/" ++ name)) := rfl
  cases hrule : (Manifest.ofValue Builtin.manifest).rule? rule.name with
  | none => exact .undeclared hload hrule
  | some value =>
    have hfind := hrule
    rw [Manifest.rule?, Value.valueAt?, shipped, List.find?_map, Option.map_map] at hfind
    obtain ⟨name, hname, rfl⟩ := Option.map_eq_some_iff.1 hfind
    have hsame := List.find?_some hname
    obtain rfl : name = rule.name := Value.str.inj (Value.same_str.1 hsame)
    exact .declared hload hrule (.inl rfl)

/-- A conventional path is not relative to where it stands, and stays so behind the mark for
that. -/
theorem rulePath_eq_iff {m : Manifest} {path : Text}
    (hrule : m.rule? rule.name = some (.str path)) :
    rulePath m (specifier rule.plugin) rule.name = .ok (conventionalPath rule) ↔
      path = conventionalPath rule ∨ path = "./" ++ conventionalPath rule := by
  have hplain : (conventionalPath rule).toList = ("rules/" : Text).toList ++ rule.name.toList :=
    Text.toList_append ..
  rw [rulePath, hrule, Except.ok.injEq]
  cases hdot : [.char '.', .char '/'].isPrefixOf path.toList with
  | true =>
    obtain ⟨rest, hrest⟩ := List.isPrefixOf_iff_prefix.1 hdot
    obtain rfl : path = "./" ++ Text.ofList rest := Text.ext (by simp [← hrest])
    have hother : "./" ++ Text.ofList rest ≠ conventionalPath rule := by
      intro h
      have := congrArg Text.toList h
      rw [hplain, Text.toList_append] at this
      cases this
    simp [hother]
  | false =>
    have hother : path ≠ "./" ++ conventionalPath rule := by
      rintro rfl
      rw [Text.toList_append] at hdot
      cases hdot
    simp [hother]

/-- **A rule is imported from the conventional path exactly if it is conventional.** -/
theorem conventional_iff : pathBy f rule = .ok (conventionalPath rule) ↔ Conventional f rule := by
  constructor
  · intro h
    rw [pathBy, manifestBy] at h
    cases hload : f (specifier rule.plugin) with
    | error fault =>
      rw [hload] at h
      cases fault with
      | notFound name reason => exact .missing hload
      | _ => cases h
    | ok exported =>
      rw [hload] at h
      have h : rulePath (Manifest.ofValue exported) (specifier rule.plugin) rule.name
          = .ok (conventionalPath rule) := h
      cases hrule : (Manifest.ofValue exported).rule? rule.name with
      | none => exact .undeclared hload hrule
      | some value =>
        cases value with
        | str path => exact .declared hload hrule ((rulePath_eq_iff hrule).1 h)
        | _ =>
          rw [rulePath, hrule] at h
          cases h
  · rintro (hload | ⟨hload, hrule⟩ | ⟨hload, hrule, hpath⟩)
    · rw [pathBy, manifestBy, hload]
      rfl
    · rw [pathBy, manifestBy, hload]
      simp only [Except.map, orEmpty, bind, Except.bind, rulePath, hrule]
      rfl
    · rw [pathBy, manifestBy, hload]
      exact (rulePath_eq_iff hrule).2 hpath

end Session

/-! ## Two loaders -/

namespace Bundle

open Session (Consistent Conventional targetOf targetBy packageBy pathBy specifier conventionalPath
  conventional_iff)

variable {σ τ : Type} {loader : Loader σ} {loader' : Loader τ} {f g : Text → Except Fault Value}

/-- A bundle looks at the targets of rules that are on, and at nothing else that is served. -/
theorem bundleBy_congr {rules : Ruleset}
    (h : ∀ e ∈ enabled rules.entries, targetBy f e.1 = targetBy g e.1) :
    bundleBy f rules = bundleBy g rules := by
  refine foldlM_congr (fun b e he => ?_) _
  change addBy f b e.1 e.2 = addBy g b e.1 e.2
  cases hj : Json.ofValue (Severity.normalize e.2) with
  | error cause => rw [addBy_of_unshown b hj, addBy_of_unshown b hj]
  | ok j =>
    cases hon : Severity.isDisabled e.2 with
    | true => rw [addBy_of_disabled b ⟨j, hj⟩ hon, addBy_of_disabled b ⟨j, hj⟩ hon]
    | false =>
      have htarget := h e (List.mem_filter.2 ⟨he, by simp [hon]⟩)
      rw [addBy_of_enabled b ⟨j, hj⟩ hon, addBy_of_enabled b ⟨j, hj⟩ hon, htarget]

/-- **The target of a conventional rule**, by which it is known to be one. -/
theorem conventional_iff_target {rule : RuleName} {package : Text}
    (hpackage : packageBy f rule.plugin = .ok package) :
    Conventional f rule ↔ targetOf f rule = .ok
      ⟨(if rule.plugin.isLocal then "." else package : Text) ++ "/" ++ conventionalPath rule,
        package ++ "/" ++ rule.name⟩ := by
  rw [← conventional_iff, Session.targetOf_eq, hpackage]
  cases pathBy f rule with
  | error fault => simp [bind, Except.bind]
  | ok path => simp [bind, Except.bind, pure, Except.pure]

/-- Loaders under which a rule has the same package and is conventional, or is served the same,
give it the same target. -/
theorem targetOf_congr {rule : RuleName} (hfile : f packageFile = g packageFile)
    (h : f (specifier rule.plugin) = g (specifier rule.plugin) ∨
      Conventional f rule ∧ Conventional g rule) : targetOf f rule = targetOf g rule := by
  have hpackage : packageBy f rule.plugin = packageBy g rule.plugin := by
    rw [packageBy, packageBy, Session.localNameBy, Session.localNameBy, hfile]
  have hpath : pathBy f rule = pathBy g rule := by
    rcases h with hserved | ⟨hf, hg⟩
    · rw [pathBy, pathBy, Session.manifestBy, Session.manifestBy, hserved]
    · rw [conventional_iff.2 hf, conventional_iff.2 hg]
  rw [Session.targetOf_eq, Session.targetOf_eq, hpackage, hpath]

/-- **The conventional path is a transparent default.**  Take loaders that answer by functions which
agree but for some plugins, and let the rules of those plugins that are on be conventional with
both.  Then both give the same bundle, or the same fault.  A conventional rule is one that is
imported from the conventional path of its package, in whatever way it comes to that; and plugins
without a mapping of rules have conventional ones only. -/
theorem conventional_path_transparent {session : Session σ} {session' : Session τ}
    (hs : Consistent loader f session) (hs' : Consistent loader' g session') {rules : Ruleset}
    {differing : Set Text} (hfile : packageFile ∉ differing)
    (hsame : ∀ name, name ∉ differing → f name = g name)
    (hconventional : ∀ e ∈ enabled rules.entries, ∀ rule, Naming.rule e.1 = .ok rule →
      specifier rule.plugin ∈ differing → Conventional f rule ∧ Conventional g rule) :
    ((ofRules loader rules).runIn session).1 = ((ofRules loader' rules).runIn session').1 ∧
    (∀ rule package, packageBy f rule.plugin = .ok package →
      (Conventional f rule ↔ targetOf f rule = .ok
        ⟨(if rule.plugin.isLocal then "." else package : Text) ++ "/" ++ conventionalPath rule,
          package ++ "/" ++ rule.name⟩)) ∧
    ∀ rule exported, f (specifier rule.plugin) = .ok exported →
      (exported.field? "rules").bind Value.entries? = none → Conventional f rule := by
  refine ⟨?_, fun rule package => conventional_iff_target, fun rule exported => .of_no_rules⟩
  rw [(computes_ofRules rules).outcome hs, (computes_ofRules rules).outcome hs']
  refine bundleBy_congr fun e he => ?_
  rw [targetBy, targetBy]
  cases hrule : Naming.rule e.1 with
  | error fault => rfl
  | ok rule =>
    refine targetOf_congr (hsame _ hfile) ?_
    by_cases hd : specifier rule.plugin ∈ differing
    · exact .inr (hconventional e he rule hrule hd)
    · exact .inl (hsame _ hd)

/-- A package to compile, and nothing else. -/
def bare (specifier : Text) : Except Fault Value :=
  if specifier = packageFile then .ok (Builtin.record [("name", .str "acme")])
  else .error (.notFound specifier none)

/-- The same package with plugins that say what goes without saying, or nothing to the purpose. -/
def explicit (specifier : Text) : Except Fault Value :=
  if specifier = packageFile then .ok (Builtin.record [("name", .str "acme")])
  else if specifier = packageRoot then .ok (Builtin.record [("rules", .list [.str "own"])])
  else if specifier = builtinPackage then .ok Builtin.manifest
  else if specifier = "bpmnlint-plugin-foo" then
    .ok (Builtin.record [("rules", Builtin.record [("a/b", .str "./rules/a/b")])])
  else .ok .null

/-- A rule of each kind of plugin, and one of a rule's that is off. -/
def oneOfEach : Ruleset := .ofList
  [(.str "global", .str "error"), (.str "foo/a/b", .int 1), (.str "local/own", .str "warn"),
    (.str "@acme/foo/r", .int 2), (.str "foo/c", .str "off")]

/-- The two packages are not told apart. -/
theorem conventional_path_transparent_oneOfEach : ∃ b,
    ((ofRules (Loader.ofFunction bare 0) oneOfEach).runIn (Session.start ())).1 = .ok b ∧
    ((ofRules (Loader.ofFunction explicit 0) oneOfEach).runIn (Session.start ())).1 = .ok b ∧
    b.imports.map ImportRecord.path =
      (["bpmnlint/rules/global", "bpmnlint-plugin-foo/rules/a/b", "./rules/own",
        "@acme/bpmnlint-plugin-foo/rules/r"] : List Text) := by
  have hbare := Consistent.start (Loader.answers_ofFunction bare 0 ())
  have hexplicit := Consistent.start (Loader.answers_ofFunction explicit 0 ())
  have hconventional : ∀ e ∈ enabled oneOfEach.entries, ∀ rule, Naming.rule e.1 = .ok rule →
      specifier rule.plugin ∈ {name | name ≠ packageFile} →
        Conventional bare rule ∧ Conventional explicit rule := by
    intro e he rule hrule _
    have hon : e ∈ [(.str "global", .str "error"), (.str "foo/a/b", .int 1),
        (.str "local/own", .str "warn"), (.str "@acme/foo/r", .int 2)] := he
    simp only [List.mem_cons, List.not_mem_nil, or_false] at hon
    rcases hon with rfl | rfl | rfl | rfl
    · obtain rfl : ⟨.builtin, "global"⟩ = rule := Except.ok.inj hrule
      exact ⟨.missing rfl, .of_builtin rfl rfl⟩
    · obtain rfl : ⟨⟨"foo", none⟩, "a/b"⟩ = rule := Except.ok.inj hrule
      exact ⟨.missing rfl, .declared rfl rfl (.inr rfl)⟩
    · obtain rfl : ⟨⟨"local", none⟩, "own"⟩ = rule := Except.ok.inj hrule
      exact ⟨.missing rfl, .of_no_rules rfl rfl⟩
    · obtain rfl : ⟨⟨"foo", some "@acme"⟩, "r"⟩ = rule := Except.ok.inj hrule
      exact ⟨.missing rfl, .of_no_rules rfl rfl⟩
  have hsame : ∀ name, name ∉ {name | name ≠ packageFile} → bare name = explicit name := by
    intro name hname
    obtain rfl : name = packageFile := by simpa using hname
    rfl
  have hfile : packageFile ∉ {name | name ≠ packageFile} := fun h => h rfl
  obtain ⟨htransparent, -⟩ :=
    conventional_path_transparent hbare hexplicit hfile hsame hconventional
  exact ⟨_, rfl, htransparent ▸ rfl, rfl⟩

end Bundle

end LintBundle
