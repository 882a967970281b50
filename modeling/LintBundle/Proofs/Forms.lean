import LintBundle.Proofs.Qualifying
import Mathlib.Data.Set.Function

/-!
# Proofs/Forms — rule ids and references, taken apart

    rule id      rule                plugin/rule            @scope/plugin/rule
    reference    bpmnlint:config     plugin:plugin/config   plugin:@scope/plugin/config

Both kinds of text are the texts of *forms*: a name alone, or a name behind a plugin as it is
written (`Form`).  What a form stands for is said without reading its text (`Form.Denotes`), and a
text is accepted exactly if it is that of a form, and then read as what the form stands for
(`rule_eq_ok_iff`, `config_eq_ok_iff`).  A plugin is written in one way (`Legible.shortName_inj`)
and a config has no slash in its name, so a reference has one form (`injOn_configText`). -/

namespace LintBundle

/-- A plugin with the prefix of its package written out. -/
def PluginRef.prefixed (p : PluginRef) : PluginRef := ⟨packagePrefix ++ p.name, p.scope⟩

namespace Naming

/-! ## Names behind a package's prefix -/

/-- A name with nothing to leave out: a package's prefix is not in front of it, or nothing is behind
that. -/
def Unprefixed (name : Text) : Prop := ∀ rest : Text, rest ≠ "" → name ≠ packagePrefix ++ rest

/-- `Sheds name rest`: a package's prefix left out of `name` once, where something remains, `rest`
is what there is. -/
inductive Sheds : Text → Text → Prop
  | once {rest : Text} (h : rest ≠ "") : Sheds (packagePrefix ++ rest) rest
  | never {name : Text} (h : Unprefixed name) : Sheds name name

theorem Unprefixed.withoutPrefix {name : Text} (h : Unprefixed name) :
    withoutPrefix name.toList = name.toList := by
  rw [Naming.withoutPrefix]
  refine if_neg fun hlead => ?_
  simp only [Bool.and_eq_true, decide_eq_true_eq] at hlead
  obtain ⟨hbegins, hlong⟩ := hlead
  refine h (Text.ofList (name.toList.drop packagePrefix.toList.length)) (by simpa using hlong) ?_
  apply Text.ext
  rw [Text.toList_append, Text.toList_ofList, Text.append_drop_of_isPrefixOf hbegins]

/-- **What a name sheds is what is left out of it** when it is read. -/
theorem sheds_iff {name rest : Text} :
    Sheds name rest ↔ Text.ofList (withoutPrefix name.toList) = rest := by
  have honce : ∀ {rest : Text}, rest ≠ "" →
      Text.ofList (withoutPrefix (packagePrefix ++ rest).toList) = rest := by
    intro rest hrest
    rw [Text.toList_append, withoutPrefix_prefix (by simpa using hrest), Text.ofList_toList]
  constructor
  · rintro (hrest | hnever)
    · exact honce hrest
    · rw [hnever.withoutPrefix, Text.ofList_toList]
  · rintro rfl
    by_cases h : Unprefixed name
    · rw [h.withoutPrefix, Text.ofList_toList]
      exact .never h
    · obtain ⟨rest, hrest, rfl⟩ : ∃ rest : Text, rest ≠ "" ∧ name = packagePrefix ++ rest := by
        simpa [Unprefixed] using h
      rw [honce hrest]
      exact .once hrest

theorem Sheds.nonempty {name rest : Text} (h : Sheds name rest) (hn : name ≠ "") : rest ≠ "" := by
  cases h with
  | once hrest => exact hrest
  | never => exact hn

/-! ## Plugins as they are written -/

/-- A plugin that may be written in front of a rule. -/
structure LeadsRule (p : PluginRef) : Prop extends Legible p where
  noScope : p.scope = none → p.name.toList.head? ≠ some (.char '@')

/-- A plugin that may be written in front of a config: its scope is more than the sign of one, and
its name never begins like one. -/
structure LeadsConfig (p : PluginRef) : Prop extends Legible p where
  noSign : p.scope ≠ some ("@" : Text)
  noScope : p.name.toList.head? ≠ some (.char '@')

theorem LeadsConfig.leadsRule {p : PluginRef} (h : LeadsConfig p) : LeadsRule p :=
  ⟨h.toLegible, fun _ => h.noScope⟩

/-- A name without a scope, by its characters. -/
theorem legible_alone {name : List Point} (hn : Plain name) :
    Legible ⟨Text.ofList name, none⟩ ∧
      (PluginRef.mk (Text.ofList name) none).shortName.toList = name := by
  have hlegible : Legible ⟨Text.ofList name, none⟩ := ⟨by simpa using hn, by simp⟩
  exact ⟨hlegible, by simp [hlegible.toList_shortName]⟩

/-- A name in a scope, by their characters. -/
theorem legible_inScope {scope name : List Point} (hs : scope.head? = some (.char '@'))
    (hslash : .char '/' ∉ scope) (hn : Plain name) :
    Legible ⟨Text.ofList name, some (Text.ofList scope)⟩ ∧
      (PluginRef.mk (Text.ofList name) (some (Text.ofList scope))).shortName.toList
        = scope ++ .char '/' :: name := by
  have hlegible : Legible ⟨Text.ofList name, some (Text.ofList scope)⟩ :=
    ⟨by simpa using hn, by simpa using ⟨hs, hslash⟩⟩
  exact ⟨hlegible, by simp [hlegible.toList_shortName]⟩

/-- **The texts in front of rules are those of plugins that may be there.** -/
theorem owner_iff {cs : List Point} : Owner cs ↔ ∃ p, LeadsRule p ∧ p.shortName.toList = cs := by
  constructor
  · rintro (⟨hn, hs⟩ | ⟨hs, hslash, hn⟩)
    · obtain ⟨hlegible, htext⟩ := legible_alone hn
      exact ⟨_, ⟨hlegible, fun _ => by simpa using hs⟩, htext⟩
    · obtain ⟨hlegible, htext⟩ := legible_inScope hs hslash hn
      exact ⟨_, ⟨hlegible, by simp⟩, htext⟩
  · rintro ⟨p, hp, rfl⟩
    exact (hp.owner_shortName hp.noScope).1

/-- **The texts in front of configs are those of plugins that may be there.** -/
theorem cited_iff {cs : List Point} : Cited cs ↔ ∃ p, LeadsConfig p ∧ p.shortName.toList = cs := by
  constructor
  · rintro (⟨hn, hs⟩ | ⟨hs, hmore, hslash, hn, hs'⟩)
    · obtain ⟨hlegible, htext⟩ := legible_alone hn
      exact ⟨_, ⟨hlegible, by simp, by simpa using hs⟩, htext⟩
    · obtain ⟨hlegible, htext⟩ := legible_inScope hs hslash hn
      refine ⟨_, ⟨hlegible, fun hsign => hmore ?_, by simpa using hs'⟩, htext⟩
      simpa using congrArg Text.toList (Option.some.inj hsign)
  · rintro ⟨p, hp, rfl⟩
    rw [hp.toList_shortName]
    cases hscope : p.scope with
    | none => exact .alone hp.name hp.noScope
    | some s =>
      obtain ⟨hhead, hslash⟩ := hp.scope s hscope
      refine .inScope hhead (fun hs => hp.noSign ?_) hslash hp.name hp.noScope
      rw [hscope, Option.some.injEq]
      exact Text.ext hs

/-- The pieces of a plugin as it is written. -/
theorem Legible.segments_shortName {p : PluginRef} (h : Legible p) :
    segments p.shortName.toList
      = p.scope.elim [p.name.toList] fun s => [s.toList, p.name.toList] := by
  rw [h.toList_shortName]
  cases hscope : p.scope with
  | none => exact Text.split_of_notMem h.name.noSlash
  | some s =>
    rw [Option.elim_some, segments_append_cons (h.scope s hscope).2, segments,
      Text.split_of_notMem h.name.noSlash]
    rfl

/-- **A plugin is written in one way.** -/
theorem Legible.shortName_inj {p p' : PluginRef} (h : Legible p) (h' : Legible p')
    (htext : p.shortName = p'.shortName) : p = p' := by
  have hpieces := h.segments_shortName
  rw [htext, h'.segments_shortName] at hpieces
  obtain ⟨name, scope⟩ := p
  obtain ⟨name', scope'⟩ := p'
  -- A scope is a piece of its own, so either both plugins have one or none has.
  cases scope <;> cases scope' <;> simp [Text.toList_inj] at hpieces ⊢
  · exact hpieces.symm
  · exact ⟨hpieces.2.symm, hpieces.1.symm⟩

/-- What comes before the last slash, and what comes after it. -/
theorem append_slash_inj {cs cs' name name' : List Point} (hn : .char '/' ∉ name)
    (hn' : .char '/' ∉ name')
    (h : cs ++ .char '/' :: name = cs' ++ .char '/' :: name') : cs = cs' ∧ name = name' := by
  have hpieces := congrArg segments h
  rw [segments, segments, Text.split_append_mark, Text.split_append_mark,
    Text.split_of_notMem hn, Text.split_of_notMem hn'] at hpieces
  obtain ⟨hcs, hname⟩ := List.append_inj' hpieces rfl
  refine ⟨?_, List.singleton_inj.1 hname⟩
  rw [← joined_segments cs, ← joined_segments cs', segments, segments, hcs]

/-! ## Plugins with the prefix written out -/

theorem Legible.prefixed {p : PluginRef} (h : Legible p) : Legible p.prefixed :=
  ⟨by simpa [PluginRef.prefixed] using h.name.prefixed, h.scope⟩

/-- A prefix does not begin like a scope. -/
theorem head_prefixed (p : PluginRef) : p.prefixed.name.toList.head? ≠ some (.char '@') := by
  simp [PluginRef.prefixed, packagePrefix]

theorem Legible.leadsRule_prefixed {p : PluginRef} (h : Legible p) : LeadsRule p.prefixed :=
  ⟨h.prefixed, fun _ => head_prefixed p⟩

/-- **The prefix that is written out is left out again.** -/
theorem Legible.sheds_prefixed {p : PluginRef} (h : Legible p) : Sheds p.prefixed.name p.name :=
  .once (by simpa using h.name.nonempty)

/-! ## Forms -/

/-- A rule id or a reference taken apart: the name of something built in, or a name behind a plugin
as it is written. -/
inductive Form
  | builtin (name : Text)
  | behind (written : PluginRef) (name : Text)

namespace Form

/-- The rule id of a form. -/
def ruleText : Form → Text
  | builtin name => name
  | behind written name => written.shortName ++ "/" ++ name

/-- The forms of rule ids. -/
def IsRule : Form → Prop
  | builtin name => Plain name.toList ∧ name.toList.head? ≠ some (.char '@')
  | behind written name => LeadsRule written ∧ Segmented name.toList

/-- The reference of a form. -/
def configText : Form → Text
  | builtin name => builtinPackage ++ ":" ++ name
  | behind written name => "plugin:" ++ written.shortName ++ "/" ++ name

/-- The forms of references. -/
def IsConfig : Form → Prop
  | builtin name => Plain name.toList
  | behind written name => LeadsConfig written ∧ Plain name.toList

/-- What a form stands for: its name in the built-in plugin, or in the plugin that is written, whose
name sheds a package's prefix. -/
def Denotes : Form → PluginRef → Text → Prop
  | builtin name, plugin, found => plugin = .builtin ∧ found = name
  | behind written name, plugin, found =>
    Sheds written.name plugin.name ∧ plugin.scope = written.scope ∧ found = name

/-- Every form stands for something. -/
theorem exists_denotes (form : Form) : ∃ plugin name, form.Denotes plugin name := by
  cases form with
  | builtin name => exact ⟨_, _, rfl, rfl⟩
  | behind written name =>
    exact ⟨⟨Text.ofList (withoutPrefix written.name.toList), written.scope⟩, name,
      sheds_iff.2 rfl, rfl, rfl⟩

/-- The plugin that a form stands for is the one that its text names. -/
theorem denotes_behind {written : PluginRef} (h : LeadsRule written) {p : PluginRef}
    {name found : Text} :
    (behind written name).Denotes p found ↔ p = plugin written.shortName.toList ∧ found = name := by
  rw [(h.owner_shortName h.noScope).2, Denotes, sheds_iff]
  constructor
  · rintro ⟨hname, hscope, rfl⟩
    exact ⟨by rw [hname, ← hscope], rfl⟩
  · rintro ⟨rfl, rfl⟩
    exact ⟨rfl, rfl, rfl⟩

/-- **No part of what a form stands for is empty.** -/
theorem Denotes.nonempty {form : Form} (hform : form.IsRule) {p : PluginRef} {name : Text}
    (h : form.Denotes p name) :
    p.name ≠ "" ∧ p.scope ≠ some ("" : Text) ∧ Segmented name.toList := by
  cases form with
  | builtin own =>
    obtain ⟨rfl, rfl⟩ := h
    exact ⟨by decide, by decide, hform.1.segmented⟩
  | behind written own =>
    obtain ⟨hname, hscope, rfl⟩ := h
    refine ⟨hname.nonempty (by simpa using hform.1.name.nonempty), fun hs => ?_, hform.2⟩
    simpa using (hform.1.scope "" (hscope ▸ hs)).1

end Form

/-- **The ids of rules are the texts of their forms.** -/
theorem names_iff {text : Text} {found : RuleName} :
    Names text.toList found ↔
      ∃ form : Form, form.IsRule ∧ text = form.ruleText ∧ form.Denotes found.plugin found.name := by
  constructor
  · intro h
    generalize hcs : text.toList = cs at h
    cases h with
    | bare hn hs =>
      subst hcs
      exact ⟨.builtin text, ⟨hn, hs⟩, rfl, rfl, by simp⟩
    | @owned owner name ho hn =>
      obtain ⟨p, hp, rfl⟩ := owner_iff.1 ho
      refine ⟨.behind p (Text.ofList name), ⟨hp, by simpa using hn⟩, ?_,
        (Form.denotes_behind hp).2 ⟨rfl, rfl⟩⟩
      apply Text.ext
      simpa [Form.ruleText] using hcs
  · rintro ⟨form, hform, rfl, hdenotes⟩
    obtain ⟨p, n⟩ := found
    cases form with
    | builtin name =>
      obtain ⟨rfl, rfl⟩ := hdenotes
      simpa [Form.ruleText] using Names.bare hform.1 hform.2
    | behind written name =>
      obtain ⟨rfl, rfl⟩ := (Form.denotes_behind hform.1).1 hdenotes
      simpa [Form.ruleText] using Names.owned (owner_iff.2 ⟨written, hform.1, rfl⟩) hform.2

/-- **The references to configs are the texts of their forms.** -/
theorem refers_iff {text : Text} {found : ConfigRef} :
    Refers text.toList found ↔
      ∃ form : Form, form.IsConfig ∧ text = form.configText ∧
        form.Denotes found.plugin found.config := by
  constructor
  · intro h
    generalize hcs : text.toList = cs at h
    cases h with
    | @builtin config hc =>
      refine ⟨.builtin (Text.ofList config), by simpa [Form.IsConfig] using hc, ?_, rfl, rfl⟩
      apply Text.ext
      simpa [Form.configText] using hcs
    | @owned owner config ho hc =>
      obtain ⟨p, hp, rfl⟩ := cited_iff.1 ho
      refine ⟨.behind p (Text.ofList config), ⟨hp, by simpa using hc⟩, ?_,
        (Form.denotes_behind hp.leadsRule).2 ⟨rfl, rfl⟩⟩
      apply Text.ext
      simpa [Form.configText] using hcs
  · rintro ⟨form, hform, rfl, hdenotes⟩
    obtain ⟨p, n⟩ := found
    cases form with
    | builtin name =>
      obtain ⟨rfl, rfl⟩ := hdenotes
      simpa [Form.configText] using Refers.builtin hform
    | behind written name =>
      obtain ⟨rfl, rfl⟩ := (Form.denotes_behind hform.1.leadsRule).1 hdenotes
      simpa [Form.configText] using Refers.owned (cited_iff.2 ⟨written, hform.1, rfl⟩) hform.2

/-- **A reference has one form.** -/
theorem injOn_configText : Set.InjOn Form.configText {form | form.IsConfig} := by
  intro form hform form' hform' htext
  have hchars := congrArg Text.toList htext
  cases form with
  | builtin name =>
    cases form' with
    | builtin name' => simpa [Form.configText, Text.toList_inj] using hchars
    | behind written' name' => simp [Form.configText, builtinPackage] at hchars
  | behind written name =>
    cases form' with
    | builtin name' => simp [Form.configText, builtinPackage] at hchars
    | behind written' name' =>
      simp only [Form.configText, Text.toList_append, List.append_assoc,
        List.append_cancel_left_eq] at hchars
      obtain ⟨hplugin, hname⟩ := append_slash_inj hform.2.noSlash hform'.2.noSlash hchars
      rw [hform.1.shortName_inj hform'.1.toLegible (Text.ext hplugin),
        Text.ext hname]

/-! ## What is accepted -/

/-- **A rule id is read as a form of rule ids.** -/
theorem rule_eq_ok_iff {id : Value} {found : RuleName} :
    rule id = .ok found ↔
      ∃ form : Form, form.IsRule ∧ id = .str form.ruleText ∧
        form.Denotes found.plugin found.name := by
  simp only [readsTexts_rule.eq_ok_iff, rule?_eq_some_iff, names_iff]
  constructor
  · rintro ⟨text, rfl, form, hform, rfl, hdenotes⟩
    exact ⟨form, hform, rfl, hdenotes⟩
  · rintro ⟨form, hform, rfl, hdenotes⟩
    exact ⟨_, rfl, form, hform, rfl, hdenotes⟩

/-- **The accepted rule ids are the texts of their forms.** -/
theorem exists_rule_iff {id : Value} :
    (∃ found, rule id = .ok found) ↔ ∃ form : Form, form.IsRule ∧ id = .str form.ruleText := by
  simp only [rule_eq_ok_iff]
  constructor
  · rintro ⟨found, form, hform, htext, -⟩
    exact ⟨form, hform, htext⟩
  · rintro ⟨form, hform, htext⟩
    obtain ⟨plugin, name, hdenotes⟩ := form.exists_denotes
    exact ⟨⟨plugin, name⟩, form, hform, htext, hdenotes⟩

/-- **A reference is read as a form of references.** -/
theorem config_eq_ok_iff {reference : Value} {found : ConfigRef} :
    config reference = .ok found ↔
      ∃ form : Form, form.IsConfig ∧ reference = .str form.configText ∧
        form.Denotes found.plugin found.config := by
  simp only [readsTexts_config.eq_ok_iff, config?_eq_some_iff, refers_iff]
  constructor
  · rintro ⟨text, rfl, form, hform, rfl, hdenotes⟩
    exact ⟨form, hform, rfl, hdenotes⟩
  · rintro ⟨form, hform, rfl, hdenotes⟩
    exact ⟨_, rfl, form, hform, rfl, hdenotes⟩

/-- **The accepted references are the texts of their forms.** -/
theorem exists_config_iff {reference : Value} :
    (∃ found, config reference = .ok found) ↔
      ∃ form : Form, form.IsConfig ∧ reference = .str form.configText := by
  simp only [config_eq_ok_iff]
  constructor
  · rintro ⟨found, form, hform, htext, -⟩
    exact ⟨form, hform, htext⟩
  · rintro ⟨form, hform, htext⟩
    obtain ⟨plugin, name, hdenotes⟩ := form.exists_denotes
    exact ⟨⟨plugin, name⟩, form, hform, htext, hdenotes⟩

/-- An integer with one digit more than is written. -/
theorem hasLongNumber_tenPow : (Value.int (Nat.pow 10 4300)).hasLongNumber = true := by
  decide +kernel

/-- **References are the texts of one grammar.**  A reference is accepted exactly if it is the text
of a form of references; it is the text of no other, and names what the form stands for.  All else
is reported as no reference, unless it has a number too long to be shown, which no text has. -/
theorem config_grammar (reference : Value) :
    ((∃ found, config reference = .ok found) ↔
      ∃ form : Form, form.IsConfig ∧ reference = .str form.configText) ∧
    (∀ form : Form, form.IsConfig → reference = .str form.configText →
      (∀ form' : Form, form'.IsConfig → reference = .str form'.configText → form' = form) ∧
      ∃ found, config reference = .ok found ∧ form.Denotes found.plugin found.config) ∧
    ∀ fault, config reference = .error fault ↔
      (¬ ∃ form : Form, form.IsConfig ∧ reference = .str form.configText) ∧
        fault = if reference.hasLongNumber then .numberTooLong else .invalidExtends reference := by
  refine ⟨exists_config_iff, fun form hform htext => ⟨fun form' hform' htext' => ?_, ?_⟩,
    fun fault => ?_⟩
  · exact injOn_configText hform' hform (Value.str.inj (htext'.symm.trans htext))
  · obtain ⟨plugin, name, hdenotes⟩ := form.exists_denotes
    exact ⟨⟨plugin, name⟩, config_eq_ok_iff.2 ⟨form, hform, htext, hdenotes⟩, hdenotes⟩
  · rw [← exists_config_iff]
    exact readsTexts_config.eq_error_iff

/-- A config with a line break in its name, of a scoped plugin that goes by its package's name. -/
theorem config_grammar_scoped :
    ∃ found, config (.str "plugin:@acme/bpmnlint-plugin-foo/a\nb") = .ok found ∧
      (Form.behind ⟨"bpmnlint-plugin-foo", some "@acme"⟩ "a\nb").Denotes found.plugin
        found.config := by
  have hform : (Form.behind ⟨"bpmnlint-plugin-foo", some "@acme"⟩ "a\nb").IsConfig := by
    refine ⟨⟨⟨⟨by decide, by decide⟩, ?_⟩, by decide, by decide⟩, by decide, by decide⟩
    rintro s ⟨⟩
    decide
  exact ((config_grammar _).2.1 _ hform rfl).2

/-- **What cannot be shown is not reported as no reference**, though it is none. -/
theorem longReference_not_shown : config (.int (Nat.pow 10 4300)) = .error .numberTooLong :=
  readsTexts_config.eq_error_of_long (fun text h => by cases h) hasLongNumber_tenPow

/-- **A rule id is read as what it was built from**, and nothing else is read.  A rule behind a
plugin is found under the plugin's name and under that of its package, and a bare name is a built-in
rule.  The accepted ids are the texts of the forms of rule ids, each read as what a form of it
stands for, no part of which is empty.  All else is reported as no rule's name, unless it has a
number too long to be shown, which no text has. -/
theorem rule_spellings (id : Value) :
    (∀ (p : PluginRef) (name : Text), LeadsRule p → Unprefixed p.name → Segmented name.toList →
      id = .str (p.shortName ++ "/" ++ name) ∨ id = .str (p.prefixed.shortName ++ "/" ++ name) →
        rule id = .ok ⟨p, name⟩) ∧
    (∀ name : Text, Plain name.toList → name.toList.head? ≠ some (.char '@') → id = .str name →
      rule id = .ok ⟨.builtin, name⟩) ∧
    (∀ found, rule id = .ok found ↔
      ∃ form : Form, form.IsRule ∧ id = .str form.ruleText ∧
        form.Denotes found.plugin found.name) ∧
    (∀ found, rule id = .ok found →
      found.plugin.name ≠ "" ∧ found.plugin.scope ≠ some ("" : Text) ∧
        Segmented found.name.toList) ∧
    ∀ fault, rule id = .error fault ↔
      (¬ ∃ form : Form, form.IsRule ∧ id = .str form.ruleText) ∧
        fault = if id.hasLongNumber then .numberTooLong else .invalidRuleName id := by
  refine ⟨?_, fun name hn hs htext => ?_, fun _ => rule_eq_ok_iff, fun found h => ?_,
    fun fault => ?_⟩
  · rintro p name hp hname hn (htext | htext)
    · exact rule_eq_ok_iff.2 ⟨.behind p name, ⟨hp, hn⟩, htext, .never hname, rfl, rfl⟩
    · exact rule_eq_ok_iff.2 ⟨.behind p.prefixed name, ⟨hp.leadsRule_prefixed, hn⟩, htext,
        hp.sheds_prefixed, rfl, rfl⟩
  · exact rule_eq_ok_iff.2 ⟨.builtin name, ⟨hn, hs⟩, htext, rfl, rfl⟩
  · obtain ⟨form, hform, -, hdenotes⟩ := rule_eq_ok_iff.1 h
    exact hdenotes.nonempty hform
  · rw [← exists_rule_iff]
    exact readsTexts_rule.eq_error_iff

/-- A nested rule of a plugin in a scope without a name, under both names of the plugin. -/
theorem rule_spellings_nested :
    rule (.str "@/@foo/nested/r") = .ok ⟨⟨"@foo", some ("@" : Text)⟩, "nested/r"⟩ ∧
    rule (.str "@/bpmnlint-plugin-@foo/nested/r") =
      .ok ⟨⟨"@foo", some ("@" : Text)⟩, "nested/r"⟩ := by
  have hp : LeadsRule ⟨"@foo", some ("@" : Text)⟩ := by
    refine ⟨⟨⟨by decide, by decide⟩, ?_⟩, by decide⟩
    rintro s ⟨⟩
    decide
  have hname : Unprefixed "@foo" := by
    intro rest _ h
    simpa [packagePrefix] using congrArg Text.toList h
  have hn : Segmented ("nested/r" : Text).toList := any_isEmpty_eq_false.1 (by decide)
  exact ⟨(rule_spellings _).1 _ _ hp hname hn (.inl rfl),
    (rule_spellings _).1 _ _ hp hname hn (.inr rfl)⟩

/-- **What cannot be shown is not reported as no rule's name**, though it is none. -/
theorem longName_not_shown : rule (.int (Nat.pow 10 4300)) = .error .numberTooLong :=
  readsTexts_rule.eq_error_of_long (fun text h => by cases h) hasLongNumber_tenPow

end Naming

end LintBundle
