import LintBundle.Proofs.Forms

/-!
# Proofs/Agreement — one plugin, in front of rules and in front of configs

    ref ──▸ ref/rule            ──Naming.rule────▸ plugin
    ref ──▸ plugin:ref/config   ──Naming.config──▸ plugin  ──specifier──▸ what is asked for

A name, or a name in a scope, that is read in front of a config is read in front of a rule, as the
same plugin.  The other way round that fails for the scopes that are odd (`OddlyScoped`) and for no
others.  Under the name of its package every plugin is read in both places, and it is that package
which is asked for; only the names that mean something of their own, of the built-in plugin and of
the package being compiled, mean it behind a package's prefix as well (`full_name_addresses`).
-/

namespace LintBundle

namespace Naming

/-! ## One name in front -/

/-- A text that is one name, or one in a scope. -/
def OneName (ref : Text) : Prop :=
  .char '/' ∉ ref.toList ∨ ref.toList.head? = some (.char '@') ∧ ref.toList.count (.char '/') = 1

/-- A text with a scope that is its sign alone, or with a name in the scope that begins like one. -/
def OddlyScoped (ref : Text) : Prop :=
  ∃ scope own : Text, ref = "@" ++ scope ++ "/" ++ own ∧
    (scope = "" ∨ own.toList.head? = some (.char '@'))

/-- A plugin whose text begins like a scope is written in one. -/
theorem LeadsRule.slash_mem {p : PluginRef} (h : LeadsRule p)
    (hhead : p.shortName.toList.head? = some (.char '@')) : .char '/' ∈ p.shortName.toList := by
  rw [h.toList_shortName] at hhead ⊢
  cases hscope : p.scope with
  | none => exact absurd (by simpa [hscope] using hhead) (h.noScope hscope)
  | some s => simp

theorem Legible.shortName_ne_nil {p : PluginRef} (h : Legible p) : p.shortName.toList ≠ [] := by
  rw [h.toList_shortName]
  cases p.scope <;> simp [h.name.nonempty]

/-- **What is read behind a plugin has no slash**, where one name is in front of a name without
one. -/
theorem OneName.slash_notMem {ref : Text} (href : OneName ref) {p : PluginRef} (hp : LeadsRule p)
    {name own : List Point} (hn : .char '/' ∉ name)
    (htext : ref.toList ++ .char '/' :: name = p.shortName.toList ++ .char '/' :: own) :
    .char '/' ∉ own := by
  have hslashes : ref.toList.count (.char '/') ≤ p.shortName.toList.count (.char '/') := by
    rcases href with hnone | ⟨hhead, hone⟩
    · simp [List.count_eq_zero.2 hnone]
    · have hne : ref.toList ≠ [] := by
        rintro h
        simp [h] at hhead
      have hheads := congrArg List.head? htext
      rw [List.head?_append_of_ne_nil _ hne, List.head?_append_of_ne_nil _ hp.shortName_ne_nil,
        hhead] at hheads
      rw [hone]
      exact List.one_le_count_iff.2 (hp.slash_mem hheads.symm)
  have hcount := congrArg (List.count (.char '/')) htext
  simp only [List.count_append, List.count_cons_self, List.count_eq_zero.2 hn] at hcount
  exact List.count_eq_zero.1 (by omega)

/-- **What is in front of a config** is a plugin that may be there. -/
theorem config_behind_iff {ref name : Text} (hn : Plain name.toList) {found : ConfigRef} :
    config (.str ("plugin:" ++ ref ++ "/" ++ name)) = .ok found ↔
      ∃ p, LeadsConfig p ∧ p.shortName = ref ∧ found = ⟨plugin ref.toList, name⟩ := by
  rw [config_eq_ok_iff]
  constructor
  · rintro ⟨form, hform, htext, hdenotes⟩
    have hchars := congrArg Text.toList (Value.str.inj htext)
    cases form with
    | builtin own => simp [Form.configText, builtinPackage] at hchars
    | behind written own =>
      simp only [Form.configText, Text.toList_append, List.append_assoc,
        List.append_cancel_left_eq] at hchars
      obtain ⟨hplugin, hname⟩ := append_slash_inj hn.noSlash hform.2.noSlash hchars
      obtain rfl := Text.ext hplugin
      obtain rfl := Text.ext hname
      obtain ⟨hp, hown⟩ := (Form.denotes_behind hform.1.leadsRule).1 hdenotes
      exact ⟨written, hform.1, rfl, by rw [← hp, ← hown]⟩
  · rintro ⟨p, hp, rfl, rfl⟩
    exact ⟨.behind p name, ⟨hp, hn⟩, rfl, (Form.denotes_behind hp.leadsRule).2 ⟨rfl, rfl⟩⟩

/-- **What is in front of a rule** is a plugin that may be there, if it is one name. -/
theorem rule_behind_iff {ref name : Text} (href : OneName ref) (hn : Plain name.toList)
    {found : RuleName} :
    rule (.str (ref ++ "/" ++ name)) = .ok found ↔
      ∃ p, LeadsRule p ∧ p.shortName = ref ∧ found = ⟨plugin ref.toList, name⟩ := by
  rw [rule_eq_ok_iff]
  constructor
  · rintro ⟨form, hform, htext, hdenotes⟩
    have hchars := congrArg Text.toList (Value.str.inj htext)
    cases form with
    | builtin own =>
      refine absurd ?_ hform.1.noSlash
      rw [← show _ = own.toList from hchars]
      simp
    | behind written own =>
      simp only [Form.ruleText, Text.toList_append, List.append_assoc] at hchars
      have hslash := href.slash_notMem hform.1 hn.noSlash hchars
      obtain ⟨hplugin, hname⟩ := append_slash_inj hn.noSlash hslash hchars
      obtain rfl := Text.ext hplugin
      obtain rfl := Text.ext hname
      obtain ⟨hp, hown⟩ := (Form.denotes_behind hform.1).1 hdenotes
      exact ⟨written, hform.1, rfl, by rw [← hp, ← hown]⟩
  · rintro ⟨p, hp, rfl, rfl⟩
    exact ⟨.behind p name, ⟨hp, hn.segmented⟩, rfl, (Form.denotes_behind hp).2 ⟨rfl, rfl⟩⟩

/-- A plugin that may be in front of a config is not oddly scoped. -/
theorem LeadsConfig.not_oddlyScoped {p : PluginRef} (h : LeadsConfig p) :
    ¬ OddlyScoped p.shortName := by
  rintro ⟨scope, own, htext, hodd⟩
  have hchars : p.shortName.toList = .char '@' :: scope.toList ++ .char '/' :: own.toList := by
    rw [htext]
    simp
  rw [h.toList_shortName] at hchars
  cases hscope : p.scope with
  | none =>
    refine h.name.noSlash ?_
    rw [hscope, Option.elim_none] at hchars
    simp [hchars]
  | some s =>
    rw [hscope, Option.elim_some] at hchars
    have hown : .char '/' ∉ own.toList := by
      have hcount := congrArg (List.count (.char '/')) hchars
      simp only [List.count_append, List.count_cons_self,
        List.count_eq_zero.2 (h.scope s hscope).2, List.count_eq_zero.2 h.name.noSlash] at hcount
      exact List.count_eq_zero.1 (by omega)
    obtain ⟨hs, hname⟩ := append_slash_inj h.name.noSlash hown hchars
    rcases hodd with rfl | hhead
    · exact h.noSign (hscope.trans (congrArg some (Text.ext hs)))
    · exact h.noScope (hname ▸ hhead)

/-- **What may be in front of a rule may be in front of a config**, unless it is oddly scoped. -/
theorem LeadsRule.leadsConfig {p : PluginRef} (h : LeadsRule p)
    (hodd : ¬ OddlyScoped p.shortName) : LeadsConfig p := by
  have hwritten : ∀ s, p.scope = some s → p.shortName = s ++ "/" ++ p.name := by
    intro s hscope
    apply Text.ext
    simp [h.toList_shortName, hscope]
  refine ⟨h.toLegible, fun hsign => hodd ⟨"", p.name, hwritten _ hsign, .inl rfl⟩, fun hhead => ?_⟩
  cases hscope : p.scope with
  | none => exact h.noScope hscope hhead
  | some s =>
    obtain ⟨scope, hs⟩ := List.head?_eq_some_iff.1 (h.scope s hscope).1
    refine hodd ⟨Text.ofList scope, p.name, ?_, .inr hhead⟩
    rw [hwritten s hscope]
    apply Text.ext
    simp [hs]

/-- **Rule ids and references agree on what a plugin is**, but for odd scopes, which are read in
front of a rule and not in front of a config; and where both are read, they name one plugin. -/
theorem plugins_agree {ref name : Text} (href : OneName ref) (hn : Plain name.toList) :
    ((∃ found, config (.str ("plugin:" ++ ref ++ "/" ++ name)) = .ok found) ↔
      (∃ found, rule (.str (ref ++ "/" ++ name)) = .ok found) ∧ ¬ OddlyScoped ref) ∧
    ∀ found found', config (.str ("plugin:" ++ ref ++ "/" ++ name)) = .ok found →
      rule (.str (ref ++ "/" ++ name)) = .ok found' → found.plugin = found'.plugin := by
  simp only [config_behind_iff hn, rule_behind_iff href hn]
  refine ⟨⟨?_, ?_⟩, ?_⟩
  · rintro ⟨found, p, hp, rfl, -⟩
    exact ⟨⟨_, p, hp.leadsRule, rfl, rfl⟩, hp.not_oddlyScoped⟩
  · rintro ⟨⟨found, p, hp, rfl, -⟩, hodd⟩
    exact ⟨_, p, hp.leadsConfig hodd, rfl, rfl⟩
  · rintro found found' ⟨p, -, -, rfl⟩ ⟨p', -, -, rfl⟩
    rfl

/-- A scoped plugin by the name of its package. -/
theorem plugins_agree_scoped :
    ∃ found found', config (.str "plugin:@acme/bpmnlint-plugin-foo/x") = .ok found ∧
      rule (.str "@acme/bpmnlint-plugin-foo/x") = .ok found' ∧ found.plugin = found'.plugin := by
  have href : OneName "@acme/bpmnlint-plugin-foo" := .inr ⟨by decide, by decide⟩
  have hn : Plain ("x" : Text).toList := ⟨by decide, by decide⟩
  exact ⟨_, _, rfl, rfl, (plugins_agree href hn).2 _ _ rfl rfl⟩

/-- **Odd scopes are read in front of a rule alone.** -/
theorem odd_scopes_differ :
    (∃ found, rule (.str "@/foo/x") = .ok found) ∧
    config (.str "plugin:@/foo/x") = .error (.invalidExtends (.str "plugin:@/foo/x")) ∧
    (∃ found, rule (.str "@acme/@foo/x") = .ok found) ∧
    config (.str "plugin:@acme/@foo/x") = .error (.invalidExtends (.str "plugin:@acme/@foo/x")) :=
  ⟨⟨_, rfl⟩, rfl, ⟨_, rfl⟩, rfl⟩

/-! ## Full names -/

/-- **A plugin's package is asked for**, where the name means nothing of its own. -/
theorem specifier_eq_prefixed {p : PluginRef} (hb : p ≠ .builtin) (hl : p ≠ ⟨localPlugin, none⟩) :
    Session.specifier p = p.prefixed.shortName := by
  rw [Session.specifier, if_neg (mt PluginRef.isLocal_iff.1 hl), PluginRef.packageName,
    if_neg (mt PluginRef.isBuiltin_iff.1 hb)]
  rfl

/-- **A full name addresses its package.**  Under the name of its package a plugin is read in front
of every rule and every config, and that name is what is asked for, except that the names of the
built-in plugin and of the package being compiled keep their meaning behind the prefix. -/
theorem full_name_addresses {p : PluginRef} (hp : Legible p) (hsign : p.scope ≠ some ("@" : Text)) :
    (∀ name : Text, Segmented name.toList →
      rule (.str (p.prefixed.shortName ++ "/" ++ name)) = .ok ⟨p, name⟩) ∧
    (∀ name : Text, Plain name.toList →
      config (.str ("plugin:" ++ p.prefixed.shortName ++ "/" ++ name)) = .ok ⟨p, name⟩) ∧
    (p ≠ .builtin → p ≠ ⟨localPlugin, none⟩ → Session.specifier p = p.prefixed.shortName) ∧
    (p = .builtin → Session.specifier p = builtinPackage) ∧
    (p = ⟨localPlugin, none⟩ → Session.specifier p = packageRoot) := by
  refine ⟨fun name hn => ?_, fun name hn => ?_, specifier_eq_prefixed, ?_, ?_⟩
  · exact rule_eq_ok_iff.2 ⟨.behind p.prefixed name, ⟨hp.leadsRule_prefixed, hn⟩, rfl,
      hp.sheds_prefixed, rfl, rfl⟩
  · exact config_eq_ok_iff.2 ⟨.behind p.prefixed name, ⟨⟨hp.prefixed, hsign, head_prefixed p⟩, hn⟩,
      rfl, hp.sheds_prefixed, rfl, rfl⟩
  · rintro rfl
    rfl
  · rintro rfl
    rfl

/-- A package that carries the prefix twice, and what remains of its name would mean something. -/
theorem full_name_addresses_twice :
    rule (.str "bpmnlint-plugin-bpmnlint-plugin-local/r")
      = .ok ⟨⟨"bpmnlint-plugin-local", none⟩, "r"⟩ ∧
    Session.specifier ⟨"bpmnlint-plugin-local", none⟩ =
      "bpmnlint-plugin-bpmnlint-plugin-local" := by
  have hp : Legible ⟨"bpmnlint-plugin-local", none⟩ := ⟨⟨by decide, by decide⟩, by simp⟩
  obtain ⟨hrule, -, hasked, -⟩ := full_name_addresses hp (by decide)
  exact ⟨hrule "r" (any_isEmpty_eq_false.1 (by decide)), hasked (by decide) (by decide)⟩

/-- **Two names keep their meaning behind the prefix**, so the packages of these names are not what
is asked for. -/
theorem full_names_captured :
    (∃ found, rule (.str "bpmnlint-plugin-bpmnlint/r") = .ok found ∧
      Session.specifier found.plugin = "bpmnlint") ∧
    ∃ found, config (.str "plugin:bpmnlint-plugin-local/base") = .ok found ∧
      Session.specifier found.plugin = "." :=
  ⟨⟨_, rfl, rfl⟩, _, rfl, rfl⟩

end Naming

end LintBundle
