import LintBundle.Naming
import Mathlib.Data.List.Basic

/-!
# Proofs/Spelling — the texts that name a plugin, a config or a rule

A text is cut at its slashes, and put together again it is the text.  The ids that name a rule are
those of three shapes (`Names`, `rule?_eq_some_iff`): a bare name, a name behind a plugin, and one
behind a scoped plugin.  The references that name a config have shapes like these (`Refers`,
`config?_eq_some_iff`), with a narrower notion of a plugin in front (`Cited`).  Values are read by
their texts alone, and whatever names nothing is reported as it is (`ReadsTexts`).  A rule's own id,
its name behind the name of its package, is one of its ids and names that rule
(`Names.canonicalId`), so rules with one such id are one rule.
-/

namespace LintBundle

/-! ## Texts in pieces -/

namespace Text

variable {α : Type} [DecidableEq α]

theorem split_ne_nil (mark : α) (cs : List α) : split mark cs ≠ [] := by
  cases cs with
  | nil => simp [split]
  | cons c cs =>
    rw [split]
    split
    · simp
    · split <;> simp

/-- A text without the mark is one piece. -/
theorem split_of_notMem {mark : α} {cs : List α} (h : mark ∉ cs) : split mark cs = [cs] := by
  induction cs with
  | nil => rfl
  | cons c cs ih =>
    obtain ⟨hc, hcs⟩ : mark ≠ c ∧ mark ∉ cs := by simpa using h
    rw [split, if_neg (Ne.symm hc), ih hcs]

/-- The text before the first mark is the first piece. -/
theorem split_append_cons {mark : α} {cs : List α} (h : mark ∉ cs) (rest : List α) :
    split mark (cs ++ mark :: rest) = cs :: split mark rest := by
  induction cs with
  | nil => rw [List.nil_append, split, if_pos rfl]
  | cons c cs ih =>
    obtain ⟨hc, hcs⟩ : mark ≠ c ∧ mark ∉ cs := by simpa using h
    rw [List.cons_append, split, if_neg (Ne.symm hc), ih hcs]

/-- **Cutting a text is `List.splitOn`.** -/
theorem split_eq_splitOn (mark : α) (cs : List α) : split mark cs = cs.splitOn mark := by
  induction cs with
  | nil => rfl
  | cons c cs ih =>
    have hne := split_ne_nil mark cs
    have hon : (c :: cs).splitOn mark
        = if c = mark then [] :: cs.splitOn mark else (cs.splitOn mark).modifyHead (c :: ·) := by
      simp only [List.splitOn, List.splitOnP_cons_eq_if_modifyHead, beq_iff_eq]
    rw [split, hon, ← ih]
    cases hs : split mark cs with
    | nil => exact absurd hs hne
    | cons piece more => rfl

/-- The pieces of a text put together again. -/
@[simp] theorem join_split (mark : α) (cs : List α) : join mark (split mark cs) = cs := by
  rw [split_eq_splitOn]
  exact List.intercalate_splitOn mark

/-- A text whose first piece is known. -/
theorem eq_append_of_split {mark : α} {cs piece next : List α} {more : List (List α)}
    (h : split mark cs = piece :: next :: more) :
    mark ∉ piece ∧ ∃ rest, cs = piece ++ mark :: rest ∧ split mark rest = next :: more := by
  induction cs generalizing piece with
  | nil => cases h
  | cons c cs ih =>
    rw [split] at h
    split at h
    · rename_i hc
      obtain ⟨rfl, hrest⟩ := List.cons.inj h
      exact ⟨by simp, cs, by rw [hc]; rfl, hrest⟩
    · rename_i hc
      cases hs : split mark cs with
      | nil => exact absurd hs (split_ne_nil mark cs)
      | cons piece' more' =>
        rw [hs] at h
        obtain ⟨rfl, rfl⟩ := List.cons.inj h
        obtain ⟨hnot, rest, rfl, hrest⟩ := ih hs
        exact ⟨by simpa using ⟨Ne.symm hc, hnot⟩, rest, rfl, hrest⟩

theorem notMem_of_split {mark : α} {cs piece : List α} (h : split mark cs = [piece]) :
    mark ∉ cs ∧ cs = piece := by
  have hnot : mark ∉ cs := by
    induction cs generalizing piece with
    | nil => simp
    | cons c cs ih =>
      rw [split] at h
      split at h
      · exact absurd (List.cons.inj h).2 (split_ne_nil mark cs)
      · rename_i hc
        cases hs : split mark cs with
        | nil => exact absurd hs (split_ne_nil mark cs)
        | cons piece' more' =>
          rw [hs] at h
          obtain ⟨-, rfl⟩ := List.cons.inj h
          simpa using ⟨Ne.symm hc, ih hs⟩
  rw [split_of_notMem hnot] at h
  exact ⟨hnot, (List.cons.inj h).1⟩

/-- A text behind what it begins with. -/
theorem append_drop_of_isPrefixOf {lead cs : List α} (h : lead.isPrefixOf cs = true) :
    lead ++ cs.drop lead.length = cs :=
  List.prefix_iff_eq_append.1 (List.isPrefixOf_iff_prefix.1 h)

end Text

namespace PluginRef

/-- There is one plugin of the built-in rules. -/
@[simp] theorem isBuiltin_iff {p : PluginRef} : p.isBuiltin = true ↔ p = .builtin := by
  cases p
  simp [isBuiltin, builtin, and_comm]

/-- There is one plugin that stands for the package being compiled. -/
@[simp] theorem isLocal_iff {p : PluginRef} : p.isLocal = true ↔ p = ⟨localPlugin, none⟩ := by
  cases p
  simp [isLocal, and_comm]

end PluginRef

namespace Naming

/-- What comes before a slash, and what comes after it. -/
theorem segments_append_cons {cs : List Point} (h : .char '/' ∉ cs) (rest : List Point) :
    segments (cs ++ .char '/' :: rest) = cs :: segments rest :=
  Text.split_append_cons h rest

@[simp] theorem joined_segments (cs : List Point) :
    joined (segments cs) = cs := Text.join_split _ cs

@[simp] theorem joined_single (cs : List Point) : joined [cs] = cs := by
  simp [joined, Text.join, List.intercalate]

@[simp] theorem joined_pair (scope name : List Point) :
    joined [scope, name] = scope ++ .char '/' :: name := by
  simp [joined, Text.join, List.intercalate]

/-! ## Plugins -/

/-- A text that may stand for a plugin or a config between slashes. -/
structure Plain (cs : List Point) : Prop where
  nonempty : cs ≠ []
  noSlash : .char '/' ∉ cs

/-- A package's prefix in front of a name is left out again. -/
theorem withoutPrefix_prefix {name : List Point} (hn : name ≠ []) :
    withoutPrefix (packagePrefix.toList ++ name) = name := by
  have hlength : packagePrefix.toList.length < (packagePrefix.toList ++ name).length := by
    have := List.length_pos_iff.2 hn
    rw [List.length_append]
    omega
  have hlead : packagePrefix.toList.isPrefixOf (packagePrefix.toList ++ name) = true :=
    List.isPrefixOf_iff_prefix.2 (List.prefix_append ..)
  simp only [withoutPrefix, hlead, hlength, List.drop_left]
  rfl

/-- Of a name, something remains without the prefix. -/
theorem Plain.withoutPrefix {name : List Point} (h : Plain name) : Plain (withoutPrefix name) := by
  rw [Naming.withoutPrefix]
  split
  · rename_i hlead
    have hlength : packagePrefix.toList.length < name.length := by simp at hlead; exact hlead.2
    exact ⟨by simpa using hlength, fun hslash => h.noSlash (List.mem_of_mem_drop hslash)⟩
  · exact h

/-- A name behind a package's prefix. -/
theorem Plain.prefixed {name : List Point} (h : Plain name) :
    Plain (packagePrefix.toList ++ name) :=
  ⟨by simp [h.nonempty], by simpa using ⟨by decide, h.noSlash⟩⟩

/-- A package's prefix may be left out of the name. -/
theorem plugin_prefix {name : List Point} (hn : name ≠ []) (hs : name.head? ≠ some (.char '@'))
    (hw : withoutPrefix name = name) : plugin (packagePrefix.toList ++ name) = plugin name := by
  rw [plugin, plugin, if_neg hs, if_neg (by simp [packagePrefix]), withoutPrefix_prefix hn, hw]

/-- A plugin without a scope is called by its name. -/
theorem plugin_unscoped {name : List Point} (hs : name.head? ≠ some (.char '@')) :
    plugin name = ⟨Text.ofList (withoutPrefix name), none⟩ := by
  rw [plugin, if_neg hs]

/-- The scope of a plugin ends at the first slash. -/
theorem plugin_scoped {scope name : List Point} (hs : scope.head? = some (.char '@'))
    (hslash : .char '/' ∉ scope) :
    plugin (scope ++ .char '/' :: name)
      = ⟨Text.ofList (withoutPrefix name), some (Text.ofList scope)⟩ := by
  have hhead : (scope ++ .char '/' :: name).head? = some (.char '@') := by
    rw [List.head?_append, hs]
    rfl
  have hin : ∀ c ∈ scope, decide (c ≠ .char '/') = true := by
    intro c hc
    simpa using fun h : c = .char '/' => hslash (h ▸ hc)
  rw [plugin, if_pos hhead, List.dropWhile_append_of_pos hin, List.takeWhile_append_of_pos hin]
  simp

/-- **A text that names a plugin** in front of a rule: a name alone, or behind a scope. -/
inductive Owner : List Point → Prop
  | alone {name : List Point} (hn : Plain name) (hs : name.head? ≠ some (.char '@')) : Owner name
  | inScope {scope name : List Point} (hs : scope.head? = some (.char '@'))
    (hslash : .char '/' ∉ scope)
      (hn : Plain name) : Owner (scope ++ .char '/' :: name)

/-- **A text that names a plugin** in front of a config: a scope is more than its sign, and no name
begins like one. -/
inductive Cited : List Point → Prop
  | alone {name : List Point} (hn : Plain name) (hs : name.head? ≠ some (.char '@')) : Cited name
  | inScope {scope name : List Point} (hs : scope.head? = some (.char '@'))
    (hmore : scope ≠ [.char '@'])
      (hslash : .char '/' ∉ scope) (hn : Plain name) (hs' : name.head? ≠ some (.char '@')) :
      Cited (scope ++ .char '/' :: name)

/-- What names a plugin in front of a config does so in front of a rule. -/
theorem Cited.owner {cs : List Point} (h : Cited cs) : Owner cs := by
  cases h with
  | alone hn hs => exact .alone hn hs
  | inScope hs _ hslash hn => exact .inScope hs hslash hn

/-- **A plugin's package names the plugin.** -/
theorem Owner.packageName {cs : List Point} (h : Owner cs) :
    Owner (plugin cs).packageName.toList ∧ plugin (plugin cs).packageName.toList = plugin cs := by
  cases hb : (plugin cs).isBuiltin with
  | true =>
    rw [PluginRef.isBuiltin_iff.1 hb]
    exact ⟨.alone ⟨by decide, by decide⟩ (by decide), by decide⟩
  | false =>
    rw [PluginRef.packageName, if_neg (by simp [hb])]
    cases h with
    | alone hn hs =>
      have hlead : (packagePrefix.toList ++ withoutPrefix cs).head? ≠ some (.char '@') := by
        simp [packagePrefix]
      rw [plugin_unscoped hs, PluginRef.inScope, Text.toList_append, Text.toList_ofList]
      refine ⟨.alone hn.withoutPrefix.prefixed hlead, ?_⟩
      rw [plugin_unscoped hlead, withoutPrefix_prefix hn.withoutPrefix.nonempty]
    | @inScope scope name hs hslash hn =>
      have hscope : Text.ofList scope ≠ "" := by
        rintro h
        rw [Text.ofList_eq_empty_iff.1 h] at hs
        cases hs
      have htext : (PluginRef.inScope (some (Text.ofList scope))
          (packagePrefix ++ Text.ofList (withoutPrefix name))).toList
            = scope ++ .char '/' :: (packagePrefix.toList ++ withoutPrefix name) := by
        rw [PluginRef.inScope, if_neg hscope]
        simp
      rw [plugin_scoped hs hslash, htext]
      refine ⟨.inScope hs hslash hn.withoutPrefix.prefixed, ?_⟩
      rw [plugin_scoped hs hslash, withoutPrefix_prefix hn.withoutPrefix.nonempty]

/-! ## Named configs -/

/-- The config of an unscoped plugin, as a text names it. -/
theorem config?_plugin {name config : List Point} (hn : Plain name)
    (hs : name.head? ≠ some (.char '@'))
    (hc : Plain config) :
    config? (("plugin:" : Text).toList ++ (name ++ .char '/' :: config))
      = some ⟨plugin name, Text.ofList config⟩ := by
  have hb : (builtinPackage.toList ++ [Point.char ':']).isPrefixOf
      (("plugin:" : Text).toList ++ (name ++ .char '/' :: config))
      = false := by rfl
  have hp : ("plugin:" : Text).toList.isPrefixOf
      (("plugin:" : Text).toList ++ (name ++ .char '/' :: config)) = true := by
    rfl
  have hseg : segments
      ((("plugin:" : Text).toList ++ (name ++ .char '/' :: config)).drop
        ("plugin:" : Text).toList.length)
      = [name, config] := by
    rw [List.drop_left, segments, Text.split_append_cons hn.noSlash,
      Text.split_of_notMem hc.noSlash]
  have hgood : (name.isEmpty || decide (name.head? = some (.char '@')) || config.isEmpty) =
      false := by
    simp [hn.nonempty, hs, hc.nonempty]
  simp only [config?, hb, hp, hseg, hgood, if_true]
  rfl

/-- A config of the built-in package, as a text names it. -/
theorem config?_builtin {config : List Point} (hc : Plain config) :
    config? ((builtinPackage.toList ++ [.char ':']) ++ config)
      = some ⟨.builtin, Text.ofList config⟩ := by
  have hb : (builtinPackage.toList ++ [Point.char ':']).isPrefixOf
      ((builtinPackage.toList ++ [.char ':']) ++ config) = true := by rfl
  have hgood : (config.isEmpty || config.contains (.char '/')) = false := by
    simp [hc.nonempty, hc.noSlash]
  simp only [config?, hb, List.drop_left, hgood, if_true]
  rfl

/-- Behind the sign of a scope there is something. -/
theorem two_le_length {scope : List Point} (hs : scope.head? = some (.char '@')) :
    2 ≤ scope.length ↔ scope ≠ [.char '@'] := by
  obtain ⟨more, rfl⟩ := List.head?_eq_some_iff.1 hs
  cases more <;> simp

/-- The config of a scoped plugin, as a text names it. -/
theorem config?_inScope {scope name config : List Point} (hs : scope.head? = some (.char '@'))
    (hmore : scope ≠ [.char '@']) (hslash : .char '/' ∉ scope) (hn : Plain name)
    (hs' : name.head? ≠ some (.char '@'))
    (hc : Plain config) :
    config? (("plugin:" : Text).toList ++ (scope ++ .char '/' :: name ++ .char '/' :: config))
      = some ⟨plugin (scope ++ .char '/' :: name), Text.ofList config⟩ := by
  have hb : (builtinPackage.toList ++ [Point.char ':']).isPrefixOf
      (("plugin:" : Text).toList ++ (scope ++ .char '/' :: name ++ .char '/' :: config)) =
        false := by rfl
  have hp : ("plugin:" : Text).toList.isPrefixOf
      (("plugin:" : Text).toList ++ (scope ++ .char '/' :: name ++ .char '/' :: config)) =
        true := by rfl
  have hseg : segments
      ((("plugin:" : Text).toList ++ (scope ++ .char '/' :: name ++ .char '/' :: config)).drop
      ("plugin:" : Text).toList.length) = [scope, name, config] := by
    rw [List.drop_left, List.append_assoc, List.cons_append, segments,
      Text.split_append_cons hslash, Text.split_append_cons hn.noSlash,
      Text.split_of_notMem hc.noSlash]
  have hlong : decide (scope.length < 2) = false :=
    decide_eq_false (Nat.not_lt.2 ((two_le_length hs).2 hmore))
  have hgood : (decide (scope.head? ≠ some (.char '@')) || decide (scope.length < 2)
      || name.isEmpty || decide (name.head? = some (.char '@')) || config.isEmpty) = false := by
    rw [hlong]
    simp [hs, hn.nonempty, hs', hc.nonempty]
  simp only [config?, hb, hp, hseg, hgood, joined_pair, if_true]
  rfl

/-- **The texts that name a config**, and the config each of them names. -/
inductive Refers : List Point → ConfigRef → Prop
  | builtin {config : List Point} (hc : Plain config) :
      Refers ((builtinPackage.toList ++ [.char ':']) ++ config) ⟨.builtin, Text.ofList config⟩
  | owned {owner config : List Point} (ho : Cited owner) (hc : Plain config) :
      Refers (("plugin:" : Text).toList ++ (owner ++ .char '/' :: config))
        ⟨plugin owner, Text.ofList config⟩

/-- **Each of the forms is accepted.** -/
theorem Refers.config? {ref : List Point} {found : ConfigRef} (h : Refers ref found) :
    config? ref = some found := by
  cases h with
  | builtin hc => exact config?_builtin hc
  | owned ho hc =>
    cases ho with
    | alone hn hs => exact config?_plugin hn hs hc
    | inScope hs hmore hslash hn hs' => exact config?_inScope hs hmore hslash hn hs' hc

/-- **An accepted reference has one of the forms**, and names the config of that form. -/
theorem refers_of_config? {ref : List Point} {found : ConfigRef}
    (h : Naming.config? ref = some found) : Refers ref found := by
  simp only [Naming.config?] at h
  split at h
  case isTrue hlead =>
    obtain ⟨hgood, hfound⟩ := Option.ite_none_left_eq_some.1 h
    rw [← Text.append_drop_of_isPrefixOf hlead, ← Option.some.inj hfound]
    simp only [Bool.or_eq_true, List.isEmpty_iff, List.contains_iff_mem, not_or] at hgood
    exact .builtin ⟨hgood.1, hgood.2⟩
  split at h
  case isFalse => cases h
  rename_i hlead
  rw [← Text.append_drop_of_isPrefixOf hlead]
  split at h
  case h_3 => cases h
  case h_1 name config hp =>
    obtain ⟨hgood, hfound⟩ := Option.ite_none_left_eq_some.1 h
    obtain ⟨hslash, rest, hrest, hp'⟩ := Text.eq_append_of_split hp
    obtain ⟨hslash', rfl⟩ := Text.notMem_of_split hp'
    rw [hrest, ← Option.some.inj hfound]
    simp only [Bool.or_eq_true, List.isEmpty_iff, decide_eq_true_eq, not_or] at hgood
    obtain ⟨⟨hne, hs⟩, hne'⟩ := hgood
    exact .owned (.alone ⟨hne, hslash⟩ hs) ⟨hne', hslash'⟩
  case h_2 scope name config hp =>
    obtain ⟨hgood, hfound⟩ := Option.ite_none_left_eq_some.1 h
    obtain ⟨hslash, rest, hrest, hp'⟩ := Text.eq_append_of_split hp
    obtain ⟨hslash', rest', rfl, hp''⟩ := Text.eq_append_of_split hp'
    obtain ⟨hslash'', rfl⟩ := Text.notMem_of_split hp''
    rw [hrest, ← Option.some.inj hfound, joined_pair, ← List.cons_append,
      ← List.append_assoc scope]
    simp only [Bool.or_eq_true, List.isEmpty_iff, decide_eq_true_eq, not_or, ne_eq, not_not,
      Nat.not_lt] at hgood
    obtain ⟨⟨⟨⟨hs, hlong⟩, hne⟩, hs'⟩, hne'⟩ := hgood
    exact .owned (.inScope hs ((two_le_length hs).1 hlong) hslash ⟨hne, hslash'⟩ hs')
      ⟨hne', hslash''⟩

/-- **The accepted references are those of the two forms.** -/
theorem config?_eq_some_iff {ref : List Point} {found : ConfigRef} :
    config? ref = some found ↔ Refers ref found :=
  ⟨refers_of_config?, Refers.config?⟩

/-! ## Rules -/

/-- A text no piece of which is empty. -/
def Segmented (cs : List Point) : Prop := ∀ piece ∈ segments cs, piece ≠ []

theorem Plain.segmented {cs : List Point} (h : Plain cs) : Segmented cs := by
  intro piece hpiece
  rw [segments, Text.split_of_notMem h.noSlash] at hpiece
  exact List.mem_singleton.1 hpiece ▸ h.nonempty

/-- **The ids that name a rule**, and the rule each of them names. -/
inductive Names : List Point → RuleName → Prop
  | bare {name : List Point} (hn : Plain name) (hs : name.head? ≠ some (.char '@')) :
      Names name ⟨.builtin, Text.ofList name⟩
  | owned {owner name : List Point} (ho : Owner owner) (hn : Segmented name) :
      Names (owner ++ .char '/' :: name) ⟨plugin owner, Text.ofList name⟩

/-- An id with a scope in front, cut into pieces. -/
theorem rule?_inScope {id scope owner : List Point} {name : List (List Point)}
    (hs : id.head? = some (.char '@')) (hp : segments id = scope :: owner :: name)
    (hn : name ≠ []) :
    rule? id = if (scope :: owner :: name).any List.isEmpty then none
      else some ⟨plugin (scope ++ .char '/' :: owner), Text.ofList (joined name)⟩ := by
  obtain ⟨piece, more, rfl⟩ := List.exists_cons_of_ne_nil hn
  rw [← joined_pair]
  simp only [rule?, hs, hp, decide_true, if_true]
  rfl

/-- An id with a plugin in front that has no scope, cut into pieces. -/
theorem rule?_alone {id owner : List Point} {name : List (List Point)}
    (hs : id.head? ≠ some (.char '@')) (hp : segments id = owner :: name) (hn : name ≠ []) :
    rule? id = if (owner :: name).any List.isEmpty then none
      else some ⟨plugin owner, Text.ofList (joined name)⟩ := by
  obtain ⟨piece, more, rfl⟩ := List.exists_cons_of_ne_nil hn
  nth_rewrite 3 [← joined_single owner]
  simp only [rule?, hs, hp, decide_false]
  rfl

/-- Pieces none of which is empty. -/
theorem any_isEmpty_eq_false {pieces : List (List Point)} :
    pieces.any List.isEmpty = false ↔ ∀ piece ∈ pieces, piece ≠ [] := by
  simp [List.any_eq_false]

/-- An id with a scope in front names a rule behind that scope's plugin. -/
theorem names_inScope {id scope owner piece : List Point} {more : List (List Point)}
    (hs : id.head? = some (.char '@')) (hp : segments id = scope :: owner :: piece :: more)
    (hfull : ∀ part ∈ scope :: owner :: piece :: more, part ≠ []) :
    Names id ⟨plugin (scope ++ .char '/' :: owner), Text.ofList (joined (piece :: more))⟩ := by
  obtain ⟨hscope, rest, rfl, hrest⟩ := Text.eq_append_of_split hp
  obtain ⟨howner, name, rfl, hname⟩ := Text.eq_append_of_split hrest
  obtain ⟨hne, hne', hpieces⟩ : scope ≠ [] ∧ owner ≠ [] ∧ ∀ part ∈ piece :: more, part ≠ [] := by
    simpa only [List.forall_mem_cons] using hfull
  rw [List.head?_append_of_ne_nil _ hne] at hs
  rw [← show segments name = piece :: more from hname] at hpieces ⊢
  rw [joined_segments, ← List.cons_append, ← List.append_assoc]
  exact .owned (.inScope hs hscope ⟨hne', howner⟩) hpieces

/-- An id with a plugin in front that has no scope names a rule of that plugin. -/
theorem names_alone {id owner piece : List Point} {more : List (List Point)}
    (hs : id.head? ≠ some (.char '@')) (hp : segments id = owner :: piece :: more)
    (hfull : ∀ part ∈ owner :: piece :: more, part ≠ []) :
    Names id ⟨plugin owner, Text.ofList (joined (piece :: more))⟩ := by
  obtain ⟨howner, name, rfl, hname⟩ := Text.eq_append_of_split hp
  obtain ⟨hne, hpieces⟩ : owner ≠ [] ∧ ∀ part ∈ piece :: more, part ≠ [] :=
    List.forall_mem_cons.1 hfull
  rw [List.head?_append_of_ne_nil _ hne] at hs
  rw [← show segments name = piece :: more from hname] at hpieces ⊢
  rw [joined_segments]
  exact .owned (.alone ⟨hne, howner⟩ hs) hpieces

/-- **An accepted id has one of the shapes**, and names the rule of that shape. -/
theorem names_of_rule? {id : List Point} {rule : RuleName} (h : rule? id = some rule) :
    Names id rule := by
  by_cases hs : id.head? = some (.char '@')
  · rcases hp : segments id with _ | ⟨scope, _ | ⟨owner, _ | ⟨piece, more⟩⟩⟩
    · exact absurd hp (Text.split_ne_nil _ _)
    · simp [rule?, hs, hp] at h
    · simp [rule?, hs, hp] at h
    · rw [rule?_inScope hs hp (by simp), Option.ite_none_left_eq_some, Bool.not_eq_true,
        any_isEmpty_eq_false] at h
      obtain ⟨hfull, hrule⟩ := h
      exact Option.some.inj hrule ▸ names_inScope hs hp hfull
  · rcases hp : segments id with _ | ⟨owner, _ | ⟨piece, more⟩⟩
    · exact absurd hp (Text.split_ne_nil _ _)
    · obtain ⟨hslash, rfl⟩ := Text.notMem_of_split hp
      have hne : id ≠ [] := by
        rintro rfl
        simp [rule?, hp] at h
      obtain rfl : ⟨.builtin, Text.ofList id⟩ = rule := by
        simpa [rule?, hs, hp, hne] using h
      exact .bare ⟨hne, hslash⟩ hs
    · rw [rule?_alone hs hp (by simp), Option.ite_none_left_eq_some, Bool.not_eq_true,
        any_isEmpty_eq_false] at h
      obtain ⟨hfull, hrule⟩ := h
      exact Option.some.inj hrule ▸ names_alone hs hp hfull

/-- **Each of the shapes is accepted.** -/
theorem Names.rule? {id : List Point} {rule : RuleName} (h : Names id rule) :
    rule? id = some rule := by
  cases h with
  | bare hn hs =>
    simp [Naming.rule?, hs, segments, Text.split_of_notMem hn.noSlash, hn.nonempty]
  | @owned owner name ho hn =>
    have hne : segments name ≠ [] := Text.split_ne_nil _ name
    cases ho with
    | alone hplain hs =>
      have hs' : (owner ++ .char '/' :: name).head? ≠ some (.char '@') := by
        rwa [List.head?_append_of_ne_nil _ hplain.nonempty]
      have hfull : (owner :: segments name).any List.isEmpty = false :=
        any_isEmpty_eq_false.2 (List.forall_mem_cons.2 ⟨hplain.nonempty, hn⟩)
      rw [rule?_alone hs' (segments_append_cons hplain.noSlash name) hne, hfull, joined_segments,
        if_neg Bool.false_ne_true]
    | @inScope scope plain hs hslash hplain =>
      have hscope : scope ≠ [] := by
        rintro rfl
        cases hs
      have hs' : (scope ++ .char '/' :: plain ++ .char '/' :: name).head? = some (.char '@') := by
        rwa [List.append_assoc, List.head?_append_of_ne_nil _ hscope]
      have hp : segments (scope ++ .char '/' :: plain ++ .char '/' :: name)
          = scope :: plain :: segments name := by
        rw [List.append_assoc, List.cons_append, segments_append_cons hslash,
          segments_append_cons hplain.noSlash]
      have hfull : (scope :: plain :: segments name).any List.isEmpty = false :=
        any_isEmpty_eq_false.2 (List.forall_mem_cons.2 ⟨hscope,
          List.forall_mem_cons.2 ⟨hplain.nonempty, hn⟩⟩)
      rw [rule?_inScope hs' hp hne, hfull, joined_segments, if_neg Bool.false_ne_true]

/-- **The accepted ids are those of the three shapes.** -/
theorem rule?_eq_some_iff {id : List Point} {rule : RuleName} :
    rule? id = some rule ↔ Names id rule :=
  ⟨names_of_rule?, Names.rule?⟩

/-! ## Reading values -/

/-- A reading of values that takes texts alone: a text is what `named?` says it names, and whatever
names nothing is the fault `fault`, if that can be shown. -/
structure ReadsTexts {α : Type} (read : Value → Except Fault α) (named? : List Point → Option α)
    (fault : Value → Fault) : Prop where
  text : ∀ text, read (.str text) = (named? text.toList).elim (.error (fault (.str text))) .ok
  other : ∀ v, (∀ text, v ≠ .str text) → read v = .error (.showing v (fault v))

theorem readsTexts_rule : ReadsTexts rule rule? .invalidRuleName where
  text _ := rfl
  other v h := by
    cases v with
    | str text => exact absurd rfl (h text)
    | _ => rfl

theorem readsTexts_config : ReadsTexts config config? .invalidExtends where
  text _ := rfl
  other v h := by
    cases v with
    | str text => exact absurd rfl (h text)
    | _ => rfl

namespace ReadsTexts

variable {α : Type} {read : Value → Except Fault α} {named? : List Point → Option α}
  {fault : Value → Fault}

theorem eq_ok_iff (h : ReadsTexts read named? fault) {v : Value} {found : α} :
    read v = .ok found ↔ ∃ text : Text, v = .str text ∧ named? text.toList = some found := by
  by_cases hv : ∃ text, v = .str text
  · obtain ⟨text, rfl⟩ := hv
    rw [h.text]
    cases hn : named? text.toList <;> simp [hn]
  · rw [h.other v fun text htext => hv ⟨text, htext⟩]
    simp only [not_exists] at hv
    simp [hv]

/-- **Whatever names nothing is reported as it is**, if it can be shown. -/
theorem eq_error_iff (h : ReadsTexts read named? fault) {v : Value} {cause : Fault} :
    read v = .error cause ↔
      (¬ ∃ found, read v = .ok found) ∧
        cause = if v.hasLongNumber then .numberTooLong else fault v := by
  by_cases hv : ∃ text, v = .str text
  · obtain ⟨text, rfl⟩ := hv
    have hshown : (Value.str text).hasLongNumber = false := rfl
    rw [h.text, hshown, if_neg Bool.false_ne_true]
    cases named? text.toList <;> simp [eq_comm]
  · rw [h.other v fun text htext => hv ⟨text, htext⟩, Fault.showing, Except.error.injEq]
    exact ⟨fun hcause => ⟨by simp, hcause.symm⟩, fun hcause => hcause.2.symm⟩

/-- What is no text and cannot be shown. -/
theorem eq_error_of_long (h : ReadsTexts read named? fault) {v : Value} (hv : ∀ text, v ≠ .str text)
    (hlong : v.hasLongNumber = true) : read v = .error .numberTooLong := by
  rw [h.other v hv, Fault.showing, hlong]
  rfl

end ReadsTexts

end Naming

/-- The id of a rule: its name behind the name of the package that its plugin comes in. -/
def RuleName.canonicalId (rule : RuleName) : Text := rule.plugin.packageName ++ "/" ++ rule.name

namespace Naming

/-- **A rule's own id names the rule.** -/
theorem Names.canonicalId {id : List Point} {rule : RuleName} (h : Names id rule) :
    Names rule.canonicalId.toList rule := by
  cases h with
  | bare hn hs =>
    have howns : Owner builtinPackage.toList := .alone ⟨by decide, by decide⟩ (by decide)
    have hplugin : plugin builtinPackage.toList = .builtin := by decide
    have := Names.owned howns hn.segmented
    rw [hplugin] at this
    simpa [RuleName.canonicalId, show PluginRef.builtin.packageName = builtinPackage from rfl]
      using this
  | @owned owner name ho hn =>
    obtain ⟨howns, hplugin⟩ := ho.packageName
    have := Names.owned howns hn
    rw [hplugin] at this
    simpa [RuleName.canonicalId] using this

/-- A rule id names the rule that its characters name. -/
theorem rule_eq_ok {id : Value} {found : RuleName} (h : rule id = .ok found) :
    ∃ text : Text, id = .str text ∧ Names text.toList found := by
  obtain ⟨text, rfl, hnamed⟩ := readsTexts_rule.eq_ok_iff.1 h
  exact ⟨text, rfl, names_of_rule? hnamed⟩

/-- **Rules with one id are one rule**, whatever ids they were named by. -/
theorem eq_of_canonicalId {id id' : Value} {found found' : RuleName} (h : rule id = .ok found)
    (h' : rule id' = .ok found') (hsame : found.canonicalId = found'.canonicalId) :
    found = found' := by
  obtain ⟨text, -, names⟩ := rule_eq_ok h
  obtain ⟨text', -, names'⟩ := rule_eq_ok h'
  have hid := names.canonicalId.rule?
  rw [hsame, names'.canonicalId.rule?] at hid
  exact (Option.some.inj hid).symm

end Naming

end LintBundle
