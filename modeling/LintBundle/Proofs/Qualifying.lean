import LintBundle.Proofs.Resolving
import LintBundle.Proofs.Spelling

/-!
# Proofs/Qualifying — which plugin the rules of a plugin's config name

    reference ──Naming.config──▸ plugin ──shortName──▸ plugin/rule ──Naming.rule──▸ plugin, rule

A rule of a plugin's config gets the plugin's short name in front, and that id is read like any
other.  A name has lost a package's prefix when its reference was read, and loses another when the
id is; and a name without a scope may look like a scope.  So an id comes back to the plugin exactly
where neither happens (`NamesItself`); everywhere else it is no rule's, or that of another package.
-/

namespace LintBundle

namespace Text

/-- The pieces of two texts with a mark between them. -/
theorem split_append_mark {α : Type} [DecidableEq α] (mark : α) (cs rest : List α) :
    split mark (cs ++ mark :: rest) = split mark cs ++ split mark rest := by
  induction cs with
  | nil => simp [split]
  | cons c cs ih =>
    rw [List.cons_append, split, split, ih]
    split
    · rfl
    · cases hs : split mark cs with
      | nil => exact absurd hs (split_ne_nil mark cs)
      | cons piece more => rfl

end Text

namespace Naming

theorem segmented_append {cs rest : List Point} :
    Segmented (cs ++ .char '/' :: rest) ↔ Segmented cs ∧ Segmented rest := by
  simp only [Segmented, segments, Text.split_append_mark, List.mem_append, or_imp, forall_and]

/-! ## Plugins that texts name -/

/-- The built-in plugin is named by a text as well. -/
theorem owner_builtin : Owner builtinPackage.toList ∧ plugin builtinPackage.toList = .builtin :=
  ⟨.alone ⟨by decide, by decide⟩ (by decide), by decide⟩

/-- **A reference names a config of a plugin that a text names.** -/
theorem owner_of_config? {ref : List Point} {found : ConfigRef} (h : config? ref = some found) :
    ∃ owner, Owner owner ∧ found.plugin = plugin owner := by
  cases refers_of_config? h with
  | builtin => exact ⟨_, owner_builtin.1, owner_builtin.2.symm⟩
  | owned ho => exact ⟨_, ho.owner, rfl⟩

theorem owner_of_config {reference : Value} {found : ConfigRef}
    (h : config reference = .ok found) :
    ∃ owner, Owner owner ∧ found.plugin = plugin owner := by
  obtain ⟨text, rfl, hnamed⟩ := readsTexts_config.eq_ok_iff.1 h
  exact owner_of_config? hnamed

/-- **A plugin that a text can name**: a name without a slash, and a scope if any. -/
structure Legible (p : PluginRef) : Prop where
  name : Plain p.name.toList
  scope : ∀ s ∈ p.scope, s.toList.head? = some (.char '@') ∧ .char '/' ∉ s.toList

theorem Owner.legible {cs : List Point} (h : Owner cs) : Legible (plugin cs) := by
  cases h with
  | alone hn hs =>
    rw [plugin_unscoped hs]
    exact ⟨by simpa using hn.withoutPrefix, by simp⟩
  | inScope hs hslash hn =>
    rw [plugin_scoped hs hslash]
    exact ⟨by simpa using hn.withoutPrefix, by simpa using ⟨hs, hslash⟩⟩

/-- Plugins that texts name come in different packages. -/
theorem Owner.eq_of_packageName {cs cs' : List Point} (h : Owner cs) (h' : Owner cs')
    (hp : (plugin cs).packageName = (plugin cs').packageName) : plugin cs = plugin cs' := by
  rw [← h.packageName.2, hp, h'.packageName.2]

/-- The plugin of a rule is one that a text names. -/
theorem Names.owner {id : List Point} {rule : RuleName} (h : Names id rule) :
    ∃ owner, Owner owner ∧ rule.plugin = plugin owner := by
  cases h with
  | bare => exact ⟨_, owner_builtin.1, owner_builtin.2.symm⟩
  | owned ho => exact ⟨_, ho, rfl⟩

/-- An id that begins like a scope names a rule of a plugin with a scope. -/
theorem Names.scope_ne_none {id : List Point} {rule : RuleName} (h : Names id rule)
    (hs : id.head? = some (.char '@')) : rule.plugin.scope ≠ none := by
  cases h with
  | bare _ hs' => exact absurd hs hs'
  | @owned owner name ho =>
    cases ho with
    | alone hn hs' =>
      rw [List.head?_append_of_ne_nil _ hn.nonempty] at hs
      exact absurd hs hs'
    | inScope hs' hslash => simp [plugin_scoped hs' hslash]

/-! ## Plugins that their short names name -/

/-- The text of a short name. -/
theorem Legible.toList_shortName {p : PluginRef} (h : Legible p) :
    p.shortName.toList
      = p.scope.elim p.name.toList fun s => s.toList ++ .char '/' :: p.name.toList := by
  rw [PluginRef.shortName]
  cases hs : p.scope with
  | none => rfl
  | some s =>
    have hne : s ≠ "" := by
      rintro rfl
      simpa using (h.scope "" hs).1
    rw [PluginRef.inScope, if_neg hne]
    simp

/-- **A short name is read as the plugin it is of**, but for a package's prefix, if it does not look
like a scope. -/
theorem Legible.owner_shortName {p : PluginRef} (h : Legible p)
    (hs : p.scope = none → p.name.toList.head? ≠ some (.char '@')) :
    Owner p.shortName.toList ∧
      plugin p.shortName.toList = ⟨Text.ofList (withoutPrefix p.name.toList), p.scope⟩ := by
  rw [h.toList_shortName]
  cases hscope : p.scope with
  | none => exact ⟨.alone h.name (hs hscope), plugin_unscoped (hs hscope)⟩
  | some s =>
    obtain ⟨hhead, hslash⟩ := h.scope s hscope
    refine ⟨.inScope hhead hslash h.name, ?_⟩
    rw [Option.elim_some, plugin_scoped hhead hslash, Text.ofList_toList]

/-- **A plugin that its short name names**: the name does not carry a package's prefix still, and
does not look like a scope where there is none. -/
structure NamesItself (p : PluginRef) : Prop where
  unprefixed : withoutPrefix p.name.toList = p.name.toList
  noScope : p.scope = none → p.name.toList.head? ≠ some (.char '@')

/-- The name of a rule in its plugin, given its id in one of the plugin's configs. -/
def ownName (plugin : PluginRef) (id : Text) : Text :=
  let lead := plugin.shortName ++ "/"
  if lead.toList.isPrefixOf id.toList then Text.ofList (id.toList.drop lead.toList.length) else id

/-- **From outside, a rule has its plugin's name in front** and its own behind it. -/
theorem qualified_eq {p : PluginRef} (hb : p.isBuiltin = false) (id : Text) :
    qualified p id = p.shortName ++ "/" ++ ownName p id := by
  rw [qualified, ownName]
  cases hlead : (p.shortName ++ "/").toList.isPrefixOf id.toList with
  | false => simp [hb]
  | true =>
    have hid := Text.append_drop_of_isPrefixOf hlead
    simp only [hb, Bool.or_true, if_true]
    exact Text.ext hid.symm

/-- The own name of a rule has no empty piece either. -/
theorem segmented_ownName (p : PluginRef) {id : Text} (h : Segmented id.toList) :
    Segmented (ownName p id).toList := by
  rw [ownName]
  split
  · rename_i hlead
    have hid := Text.append_drop_of_isPrefixOf hlead
    rw [← hid, Text.toList_append, List.append_assoc] at h
    simpa using (segmented_append.1 h).2
  · exact h

/-! ## Reading the id again -/

/-- A text that names a rule is its id. -/
theorem Names.rule_str {id : Text} {found : RuleName} (h : Names id.toList found) :
    rule (.str id) = .ok found := by
  rw [rule, h.rule?]
  rfl

/-- **The rule that a qualified id names**, where the plugin's short name does not look like a
scope. -/
theorem Legible.names_qualified {p : PluginRef} (h : Legible p) (hb : p.isBuiltin = false)
    (hs : p.scope = none → p.name.toList.head? ≠ some (.char '@')) {id : Text}
    (hid : Segmented id.toList) :
    Names (qualified p id).toList
      ⟨⟨Text.ofList (withoutPrefix p.name.toList), p.scope⟩, ownName p id⟩ := by
  obtain ⟨howner, hplugin⟩ := h.owner_shortName hs
  have hnames := Names.owned howner (segmented_ownName p hid)
  rw [hplugin, Text.ofList_toList] at hnames
  simpa [qualified_eq hb] using hnames

/-- A qualified id begins like a scope if the plugin's short name does. -/
theorem Legible.head_qualified {p : PluginRef} (h : Legible p) (hb : p.isBuiltin = false)
    (hscope : p.scope = none) (hs : p.name.toList.head? = some (.char '@')) (id : Text) :
    (qualified p id).toList.head? = some (.char '@') := by
  have hshort : p.shortName.toList = p.name.toList := by rw [h.toList_shortName, hscope]; rfl
  rw [qualified_eq hb, Text.toList_append, Text.toList_append, List.append_assoc, hshort,
    List.head?_append_of_ne_nil _ h.name.nonempty, hs]

/-- **An id that does not come back to its plugin** names no rule of that plugin's package. -/
theorem packageName_ne_of_not_namesItself {owner : List Point} (ho : Owner owner)
    (hb : (plugin owner).isBuiltin = false) {id : Text} (hid : Segmented id.toList)
    (hnot : ¬ NamesItself (plugin owner)) {found : RuleName}
    (hfound : rule (.str (qualified (plugin owner) id)) = .ok found) :
    found.plugin.packageName ≠ (plugin owner).packageName := by
  obtain ⟨text, htext, hnames⟩ := rule_eq_ok hfound
  obtain rfl := Value.str.inj htext
  obtain ⟨owner', ho', hplugin⟩ := hnames.owner
  intro hpackage
  rw [hplugin] at hpackage
  have hsame : found.plugin = plugin owner := hplugin.trans (ho'.eq_of_packageName ho hpackage)
  by_cases hs : (plugin owner).scope = none → (plugin owner).name.toList.head? ≠ some (.char '@')
  · have hread := (ho.legible.names_qualified hb hs hid).rule_str
    obtain rfl := Except.ok.inj (hfound.symm.trans hread)
    refine hnot ⟨?_, hs⟩
    rw [← Text.toList_ofList (withoutPrefix _)]
    exact congrArg (fun p => p.name.toList) hsame
  · obtain ⟨hscope, hhead⟩ : (plugin owner).scope = none ∧
        (plugin owner).name.toList.head? = some (.char '@') := by
      simpa using hs
    refine hnames.scope_ne_none ?_ (hsame ▸ hscope)
    exact ho.legible.head_qualified hb hscope hhead id

end Naming

namespace Extends

variable {σ : Type} {loader : Loader σ}

/-- **The rules of a plugin's config address that plugin**, exactly if the plugin's short name names
it: then the id that a rule has from outside is read as that plugin's rule of the rule's own name,
and the targets found for it lie in the plugin's package.  Everywhere else the id is no rule's, or
that of a rule of another package. -/
theorem qualified_addresses {reference : Value} {found : ConfigRef}
    (reads : Naming.config reference = .ok found) (hb : found.plugin.isBuiltin = false)
    {id : Text} (hid : Naming.Segmented id.toList) :
    ∃ q, Naming.qualify found.plugin (.str id) = .ok q ∧
      (Naming.rule (.str q) = .ok ⟨found.plugin, Naming.ownName found.plugin id⟩ ↔
        Naming.NamesItself found.plugin) ∧
      (Naming.NamesItself found.plugin → ∀ session target session',
        (Session.ruleTarget loader (.str q)).runIn session = (.ok target, session') →
          ∃ package session₁ path,
            (Session.packageName loader found.plugin).runIn session = (.ok package, session₁) ∧
              target =
                { importPath :=
                    (if found.plugin.isLocal then "." else package : Text) ++ "/" ++ path
                  canonicalId := package ++ "/" ++ Naming.ownName found.plugin id }) ∧
      (¬ Naming.NamesItself found.plugin → ∀ rule, Naming.rule (.str q) = .ok rule →
        rule.plugin.packageName ≠ found.plugin.packageName) := by
  obtain ⟨owner, howner, hplugin⟩ := Naming.owner_of_config reads
  rw [hplugin] at hb ⊢
  have addresses : Naming.NamesItself (Naming.plugin owner) →
      Naming.rule (.str (Naming.qualified (Naming.plugin owner) id))
        = .ok ⟨Naming.plugin owner, Naming.ownName (Naming.plugin owner) id⟩ := by
    intro hself
    have hread := (howner.legible.names_qualified hb hself.noScope hid).rule_str
    rwa [hself.unprefixed, Text.ofList_toList] at hread
  have misses : ¬ Naming.NamesItself (Naming.plugin owner) → ∀ rule,
      Naming.rule (.str (Naming.qualified (Naming.plugin owner) id)) = .ok rule →
        rule.plugin.packageName ≠ (Naming.plugin owner).packageName :=
    fun hnot _ => Naming.packageName_ne_of_not_namesItself howner hb hid hnot
  refine ⟨_, rfl, ⟨fun hrule => ?_, addresses⟩, ?_, misses⟩
  · by_contra hnot
    exact misses hnot _ hrule rfl
  · intro hself session target session' htarget
    obtain ⟨rule, package, session₁, path, hrule, hpackage, rfl⟩ := Session.ruleTarget_eq_ok htarget
    obtain rfl := Except.ok.inj (hrule.symm.trans (addresses hself))
    exact ⟨package, session₁, path, hpackage, rfl⟩

/-- The rules of a scoped plugin's config, with its name in front or not. -/
theorem qualified_addresses_scoped :
    ∃ found q, Naming.config (.str "plugin:@acme/bpmnlint-plugin-foo/base") = .ok found ∧
      Naming.qualify found.plugin (.str "@acme/foo/nested/r") = .ok q ∧
      Naming.rule (.str q) = .ok ⟨found.plugin, "nested/r"⟩ := by
  have reads : Naming.config (.str "plugin:@acme/bpmnlint-plugin-foo/base")
      = .ok ⟨⟨"foo", some "@acme"⟩, "base"⟩ := rfl
  obtain ⟨q, hq, hiff, -⟩ := @qualified_addresses Unit (.builtin none) _ _ reads rfl
    "@acme/foo/nested/r" (Naming.any_isEmpty_eq_false.1 (by decide))
  exact ⟨_, q, reads, hq, hiff.2 ⟨by decide, by decide⟩⟩

/-- **A name can be read back as another plugin's**, or as a scope: a rule of a config of the
package that carries the prefix twice is one of the package that carries it once, or even a built-in
one, and a rule of a plugin whose name begins like a scope is none, or that of a plugin in that
scope. -/
theorem not_qualified_addresses :
    (∃ found q, Naming.config (.str "plugin:bpmnlint-plugin-bpmnlint-plugin-foo/base") = .ok found ∧
      found.plugin.isBuiltin = false ∧
      found.plugin.packageName = "bpmnlint-plugin-bpmnlint-plugin-foo" ∧
      Naming.qualify found.plugin (.str "r") = .ok q ∧
      Naming.rule (.str q) = .ok ⟨⟨"foo", none⟩, "r"⟩) ∧
    (∃ found q, Naming.config (.str "plugin:bpmnlint-plugin-bpmnlint-plugin-bpmnlint/base")
        = .ok found ∧
      found.plugin.isBuiltin = false ∧ Naming.qualify found.plugin (.str "r") = .ok q ∧
      Naming.rule (.str q) = .ok ⟨.builtin, "r"⟩) ∧
    ∃ found q q', Naming.config (.str "plugin:bpmnlint-plugin-@x/base") = .ok found ∧
      found.plugin.isBuiltin = false ∧ Naming.qualify found.plugin (.str "r") = .ok q ∧
      Naming.rule (.str q) = .error (.invalidRuleName (.str q)) ∧
      Naming.qualify found.plugin (.str "foo/r") = .ok q' ∧
      Naming.rule (.str q') = .ok ⟨⟨"foo", some "@x"⟩, "r"⟩ :=
  ⟨⟨_, _, rfl, rfl, by decide, rfl, rfl⟩, ⟨_, _, rfl, rfl, rfl, rfl⟩,
    ⟨_, _, _, rfl, rfl, rfl, rfl, rfl, rfl⟩⟩

end Extends

end LintBundle
