import LintBundle.Proofs.ModuleText
import LintBundle.Proofs.Spelling

/-!
# Proofs/Rendering — which bundles have a module, and what its table holds

A bundle is made of rules whose values have a JSON form, but of the rules that are off nothing else
is looked at.  So a bundle has a module exactly if the ids of these rules can be written as names;
then the table has a member for each rule (`imageEntries_eq_ok`).  The ids of rules that are on are
texts, which are their own names, so two rules are written under one name only if one of them is off
and its id is no text, or if they are texts that differ in pairs of halves alone (`clash_of_name`).
-/

namespace LintBundle

namespace Bundle

variable {σ : Type} {loader : Loader σ}

/-! ## Rules as members of a table -/

/-- A member of the table that is written for a rule. -/
structure Writes (rule : Value × Value) (member : Text × Json) : Prop where
  name : Json.nameOf rule.1 = .ok member.1
  image : Json.ofValue rule.2 = .ok member.2

/-- **A table has one member for each rule**, in order. -/
theorem imageEntries_eq_ok {entries : List (Value × Value)} {table : List (Text × Json)} :
    Json.imageEntries [] entries = .ok table ↔ List.Forall₂ Writes entries table := by
  induction entries generalizing table with
  | nil =>
    rw [Json.imageEntries, List.forall₂_nil_left_iff, Except.ok.injEq]
    exact eq_comm
  | cons e entries ih =>
    obtain ⟨id, value⟩ := e
    constructor
    · intro h
      obtain ⟨name, j, more, hname, hj, hmore, rfl⟩ := Json.imageEntries_cons_ok h
      exact .cons ⟨hname, hj⟩ (ih.1 hmore)
    · rintro (_ | ⟨⟨hname, hj⟩, hmore⟩)
      rw [Json.imageEntries, hname, show Json.image [] value = .ok _ from hj, ih.2 hmore]
      rfl

/-- What a table cannot be written for is the first id without a name, if the values have images. -/
theorem imageEntries_error {entries : List (Value × Value)}
    (shown : ∀ e ∈ entries, ∃ j, Json.ofValue e.2 = .ok j) {cause : JsonFault}
    (h : Json.imageEntries [] entries = .error cause) :
    ∃ e ∈ entries, Json.nameOf e.1 = .error cause := by
  induction entries with
  | nil => cases h
  | cons e entries ih =>
    obtain ⟨id, value⟩ := e
    obtain ⟨j, hj⟩ := shown _ (List.mem_cons_self ..)
    rw [Json.imageEntries, show Json.image [] value = .ok j from hj] at h
    cases hname : Json.nameOf id with
    | error cause' =>
      rw [hname] at h
      obtain rfl : cause' = cause := Except.error.inj h
      exact ⟨_, List.mem_cons_self .., hname⟩
    | ok name =>
      rw [hname] at h
      cases hmore : Json.imageEntries [] entries with
      | ok more =>
        rw [hmore] at h
        cases h
      | error cause' =>
        rw [hmore] at h
        obtain rfl : cause' = cause := Except.error.inj h
        obtain ⟨e, he, hcause⟩ := ih (fun e he => shown e (List.mem_cons_of_mem _ he)) hmore
        exact ⟨e, List.mem_cons_of_mem _ he, hcause⟩

/-! ## Ids of rules -/

/-- An id that is no text. -/
def NoText (id : Value) : Prop := ∀ text, id ≠ .str text

/-- **The ids of rules that are on are texts.** -/
theorem exists_text_of_enabled {rules : Ruleset} {b : Bundle} {session session' : Session σ}
    (h : (ofRules loader rules).runIn session = (.ok b, session')) :
    ∀ e ∈ b.rules.entries, Severity.isDisabled e.2 = false → ∃ text, e.1 = .str text := by
  obtain ⟨found, hfound, hsound⟩ := ofRules_sound h
  rw [hsound.table]
  refine List.forall_mem_map.2 fun e he hon => ?_
  rw [Severity.isDisabled_normalize] at hon
  obtain ⟨target, hmem⟩ := hsound.exists_target.2 ⟨e.2, he, hon⟩
  obtain ⟨before, after, htarget⟩ := mem_targetsOf hfound _ hmem
  obtain ⟨rule, _, hrule, -, -⟩ := Session.ruleTarget_ok htarget
  obtain ⟨text, htext, -⟩ := Naming.rule_eq_ok hrule
  exact ⟨text, htext⟩

/-! ## Modules -/

/-- **How a bundle renders.** -/
structure Renders (b : Bundle) : Prop where
  /-- The ids of the rules that are on are texts. -/
  texts : ∀ e ∈ b.rules.entries, Severity.isDisabled e.2 = false → ∃ text, e.1 = .str text
  /-- There is a module exactly if the ids of the rules that are off have names. -/
  ok_iff : ∀ indent, (∃ text, b.moduleText indent = .ok text) ↔
    ∀ e ∈ b.rules.entries, Severity.isDisabled e.2 = true → ∃ name, Json.nameOf e.1 = .ok name
  /-- If there is none, the fault is that of an id without a name. -/
  fault : ∀ indent fault, b.moduleText indent = .error fault →
    ∃ e ∈ b.rules.entries, Severity.isDisabled e.2 = true ∧
      ∃ cause, Json.nameOf e.1 = .error cause ∧ fault = .json cause
  /-- The table of a module has one member for each rule. -/
  table : ∀ indent text, b.moduleText indent = .ok text →
    ∃ table, List.Forall₂ Writes b.rules.entries table ∧ decode text = some
      { imports := b.imports.map fun record => (record.identifier, record.path)
        cache := b.cache
        rules := Json.pairedMembers table }
  /-- Of two rules that are written under one name, one is off and its id is no text, or both ids
  are texts and one of them has a half followed by the second half of its pair. -/
  clashes : b.rules.entries.Pairwise fun e e' => ∀ name name', Json.nameOf e.1 = .ok name →
    Json.nameOf e'.1 = .ok name' → Json.quotedText name = Json.quotedText name' →
      (Severity.isDisabled e.2 = true ∧ NoText e.1) ∨
        (Severity.isDisabled e'.2 = true ∧ NoText e'.1) ∨
          (e.1 = .str name ∧ e'.1 = .str name' ∧ ¬ (name.Unpaired ∧ name'.Unpaired))
  /-- Where the ids of the rules that are off are texts as well, there is a module. -/
  faithful : (∀ e ∈ b.rules.entries, Severity.isDisabled e.2 = true → ∃ text, e.1 = .str text) →
    ∃ table, List.Forall₂ Shows b.rules.entries table ∧
      (∀ indent, ∃ text, b.moduleText indent = .ok text ∧ decode text = some
        { imports := b.imports.map fun record => (record.identifier, record.path)
          cache := b.cache
          rules := Json.pairedMembers table }) ∧
      -- The names of its table are the ids and distinct, if no id has a pair of halves.
      ((∀ e ∈ b.rules.entries, ∀ text, e.1 = .str text → text.Unpaired) →
        (Json.pairedMembers table).map Prod.fst = table.map Prod.fst ∧
          (table.map Prod.fst).Nodup)

/-- Where there is no table, there is no module. -/
theorem moduleText_error {b : Bundle} {cause : JsonFault}
    (h : Json.imageEntries [] b.rules.entries = .error cause) (indent : ℤ) :
    b.moduleText indent = .error (.json cause) := by
  have himage : Json.ofValue (.map b.rules.entries) = .error cause := by
    rw [Json.ofValue, Json.image, h]
    rfl
  rw [moduleText, himage]

/-- Texts that are distinct keys are distinct names. -/
theorem nodup_names {entries : List (Value × Value)} {table : List (Text × Json)}
    (distinct : entries.Pairwise fun e e' => e.1.same e'.1 = false)
    (h : List.Forall₂ Shows entries table) : (table.map Prod.fst).Nodup := by
  have hids : entries.map Prod.fst = (table.map Prod.fst).map Value.str := by
    induction h with
    | nil => rfl
    | cons hm _ ih =>
      rw [List.map_cons, List.map_cons, List.map_cons, hm.id, ih (List.pairwise_cons.1 distinct).2]
  have hdistinct : (entries.map Prod.fst).Pairwise fun id id' => id.same id' = false :=
    List.pairwise_map.2 distinct
  rw [hids, List.pairwise_map] at hdistinct
  refine hdistinct.imp fun hne heq => ?_
  rw [heq, Value.same_str.2 rfl] at hne
  cases hne

/-- A rule in a table has a name. -/
theorem exists_name {entries : List (Value × Value)} {table : List (Text × Json)}
    (h : List.Forall₂ Writes entries table) :
    ∀ e ∈ entries, ∃ name, Json.nameOf e.1 = .ok name := by
  induction h with
  | nil => simp
  | cons hm _ ih => exact List.forall_mem_cons.2 ⟨⟨_, hm.name⟩, ih⟩

/-- **A sound bundle has a module that decodes to a table of its rules, or an id without a name**,
which then is the fault. -/
theorem Sound.moduleText_cases {entries : List (Value × Value)} {found : List (Value × RuleTarget)}
    {b : Bundle} (h : Sound entries found b) (indent : ℤ) :
    (∃ table text, List.Forall₂ Writes b.rules.entries table ∧ b.moduleText indent = .ok text ∧
      decode text = some (b.statements table)) ∨
    ∃ e ∈ b.rules.entries, ∃ cause, Json.nameOf e.1 = .error cause ∧
      b.moduleText indent = .error (.json cause) := by
  cases htable : Json.imageEntries [] b.rules.entries with
  | ok table =>
    obtain ⟨text, htext, hmeans⟩ := h.decoded htable indent
    exact .inl ⟨table, text, imageEntries_eq_ok.1 htable, htext, hmeans⟩
  | error cause =>
    obtain ⟨e, he, hcause⟩ := imageEntries_error h.shown_table htable
    exact .inr ⟨e, he, cause, hcause, moduleText_error htable indent⟩

/-- A rule whose id is no text is off, if the ids of those that are on are texts. -/
theorem isDisabled_of_noText {b : Bundle}
    (texts : ∀ e ∈ b.rules.entries, Severity.isDisabled e.2 = false → ∃ text, e.1 = .str text)
    {e : Value × Value} (he : e ∈ b.rules.entries) (hno : NoText e.1) :
    Severity.isDisabled e.2 = true := by
  by_contra hon
  obtain ⟨text, htext⟩ := texts e he (by simpa using hon)
  exact hno text htext

/-- An id without a name is no text. -/
theorem noText_of_nameOf_error {id : Value} {cause : JsonFault}
    (h : Json.nameOf id = .error cause) : NoText id := by
  rintro text rfl
  cases h

/-- **Distinct keys that are written under one name** are not both texts without pairs. -/
theorem clash_of_name {id id' : Value} {name name' : Text} (hne : id.same id' = false)
    (hname : Json.nameOf id = .ok name) (hname' : Json.nameOf id' = .ok name')
    (hquoted : Json.quotedText name = Json.quotedText name') :
    NoText id ∨ NoText id' ∨
      (id = .str name ∧ id' = .str name' ∧ ¬ (name.Unpaired ∧ name'.Unpaired)) := by
  by_cases hno : NoText id
  · exact .inl hno
  by_cases hno' : NoText id'
  · exact .inr (.inl hno')
  obtain ⟨text, rfl⟩ := not_forall_not.1 hno
  obtain ⟨text', rfl⟩ := not_forall_not.1 hno'
  obtain rfl : text = name := Except.ok.inj hname
  obtain rfl : text' = name' := Except.ok.inj hname'
  refine .inr (.inr ⟨rfl, rfl, fun ⟨hunpaired, hunpaired'⟩ => ?_⟩)
  have hpaired := Json.quotedText_inj.1 hquoted
  rw [Text.paired_of_unpaired hunpaired, Text.paired_of_unpaired hunpaired'] at hpaired
  rw [hpaired, Value.same_str.2 rfl] at hne
  cases hne

/-- Names that are ids without pairs stay as they are. -/
theorem names_pairedMembers {entries : List (Value × Value)} {table : List (Text × Json)}
    (h : List.Forall₂ Shows entries table)
    (hunpaired : ∀ e ∈ entries, ∀ text, e.1 = .str text → text.Unpaired) :
    (Json.pairedMembers table).map Prod.fst = table.map Prod.fst := by
  rw [Json.pairedMembers_eq_map]
  induction h with
  | nil => rfl
  | cons hm _ ih =>
    obtain ⟨hfirst, hmore⟩ := List.forall_mem_cons.1 hunpaired
    rw [List.map_cons, List.map_cons, List.map_cons, ih hmore,
      Text.paired_of_unpaired (hfirst _ hm.id)]

/-- **A bundle of a rule set renders.** -/
theorem renders {rules : Ruleset} {b : Bundle} {session session' : Session σ}
    (h : (ofRules loader rules).runIn session = (.ok b, session')) : Renders b := by
  obtain ⟨found, -, hsound⟩ := ofRules_sound h
  have texts := exists_text_of_enabled h
  have isOff := @isDisabled_of_noText b texts
  exact {
    texts := texts
    ok_iff := by
      intro indent
      rcases hsound.moduleText_cases indent with
        ⟨table, text, hwrites, htext, -⟩ | ⟨e, he, cause, hcause, hfault⟩
      · exact iff_of_true ⟨text, htext⟩ fun e he _ => exists_name hwrites e he
      · refine iff_of_false (by simp [hfault]) fun named => ?_
        obtain ⟨name, hname⟩ := named e he (isOff he (noText_of_nameOf_error hcause))
        cases hname.symm.trans hcause
    fault := by
      intro indent fault hnone
      rcases hsound.moduleText_cases indent with
        ⟨_, text, -, htext, -⟩ | ⟨e, he, cause, hcause, hfault⟩
      · cases htext.symm.trans hnone
      · exact ⟨e, he, isOff he (noText_of_nameOf_error hcause), cause, hcause,
          Except.error.inj (hnone.symm.trans hfault)⟩
    table := by
      intro indent text hsome
      rcases hsound.moduleText_cases indent with
        ⟨table, text', hwrites, htext, hmeans⟩ | ⟨_, _, _, -, hfault⟩
      · obtain rfl := Except.ok.inj (hsome.symm.trans htext)
        exact ⟨table, hwrites, hmeans⟩
      · cases hsome.symm.trans hfault
    clashes := by
      refine b.rules.distinct.imp_of_mem fun {e e'} he he' hne name name' hname hname' hquoted => ?_
      exact (clash_of_name hne hname hname' hquoted).imp (fun hno => ⟨isOff he hno, hno⟩)
        (Or.imp_left fun hno => ⟨isOff he' hno, hno⟩)
    faithful := by
      intro textsToo
      have textsAll : ∀ e ∈ b.rules.entries, ∃ text, e.1 = .str text := fun e he =>
        (Bool.eq_false_or_eq_true (Severity.isDisabled e.2)).elim (textsToo e he) (texts e he)
      obtain ⟨table, htable, hshows⟩ := exists_table textsAll hsound.shown_table
      exact ⟨table, hshows, hsound.decoded htable, fun hunpaired =>
        ⟨names_pairedMembers hshows hunpaired, nodup_names b.rules.distinct hshows⟩⟩ }

/-- **Which bundles of configurations render faithfully.**  Where a configuration is bundled, its
bundle has a module with a table of one member for each rule, if the ids of the rules that are off
are texts as those of the others are; and only such an id can be without a name.  The names in the
table are distinct but for such an id, and for texts with a pair of halves, which are written like
those with the character it makes up. -/
theorem ofConfig_renders {config : Value} {b : Bundle} {session session' : Session σ}
    (h : (ofConfig loader config).runIn session = (.ok b, session')) : Renders b := by
  obtain ⟨_, _, _, _, _, hrules⟩ := ofConfig_ok h
  exact renders hrules

/-- The bundle of a configuration whose rules have a table has a module that decodes to it. -/
theorem exists_decoded_rules {config : Value} {b : Bundle} {session session' : Session σ}
    (h : (ofConfig loader config).runIn session = (.ok b, session')) {table : List (Text × Json)}
    (htable : Json.imageEntries [] b.rules.entries = .ok table) :
    ∃ text, b.moduleText defaultIndent = .ok text ∧
      (decode text).map Statements.rules = some (Json.pairedMembers table) := by
  obtain ⟨_, _, _, _, _, hrules⟩ := ofConfig_ok h
  obtain ⟨found, -, hsound⟩ := ofRules_sound hrules
  obtain ⟨text, htext, hmeans⟩ := hsound.decoded htable defaultIndent
  exact ⟨text, htext, by rw [hmeans]; rfl⟩

/-- A configuration with rules under any keys. -/
def withRules (entries : List (Value × Value)) : Value := .map [(.str "rules", .map entries)]

/-- Rules with texts as ids, one of them off and of no plugin, have a table of distinct names. -/
theorem ofConfig_renders_texts :
    ∃ b session', (ofConfig (Loader.builtin none) (withRules
        [(.str "global", .str "error"), (.str "none/such", .int 0)])).runIn (Session.start ())
        = (.ok b, session') ∧
      ∃ table, List.Forall₂ Shows b.rules.entries table ∧ (table.map Prod.fst).Nodup := by
  obtain ⟨b, session', hrun, hentries⟩ : ∃ b session', (ofConfig (Loader.builtin none) (withRules
      [(.str "global", .str "error"), (.str "none/such", .int 0)])).runIn (Session.start ())
        = (.ok b, session') ∧
      b.rules.entries = [(.str "global", .str "error"), (.str "none/such", .int 0)] :=
    ⟨_, _, rfl, rfl⟩
  have texts : ∀ e ∈ b.rules.entries, Severity.isDisabled e.2 = true → ∃ text, e.1 = .str text := by
    simp [hentries]
  have unpaired : ∀ e ∈ b.rules.entries, ∀ text, e.1 = .str text → text.Unpaired := by
    rw [hentries]
    simp only [List.forall_mem_cons, Value.str.injEq, forall_eq', List.not_mem_nil, false_imp_iff,
      implies_true, and_true]
    exact ⟨Text.unpaired_ofString _, Text.unpaired_ofString _⟩
  obtain ⟨table, hshows, -, hnames⟩ := (ofConfig_renders hrun).faithful texts
  exact ⟨b, session', hrun, table, hshows, (hnames unpaired).2⟩

/-- **A rule that is off may have an id without a name**, and then there is no module; or one with
the name of another rule, and then its member stands behind that rule's.  The name of another rule
is also that of an id with the two halves of a character instead of it. -/
theorem not_faithful :
    (∃ b session', (ofConfig (Loader.builtin none) (withRules
        [(.date ⟨2020, 1, 1⟩, .str "off")])).runIn (Session.start ()) = (.ok b, session') ∧
      b.moduleText defaultIndent = .error (.json (.badKey .date))) ∧
    (∃ b session' text, (ofConfig (Loader.builtin none) (withRules
        [(.str "1", .str "error"), (.int 1, .str "off")])).runIn (Session.start ())
        = (.ok b, session') ∧
      b.moduleText defaultIndent = .ok text ∧
      (decode text).map Statements.rules
        = some ([("1", .str "error"), ("1", .int 0)] : List (Text × Json))) ∧
    ∃ b session' text, (ofConfig (Loader.builtin none) (withRules
        [(.str "😀", .str "error"), (.str ⟨[.half 0x3d, .half 0x600]⟩, .str "off")])).runIn
        (Session.start ()) = (.ok b, session') ∧
      b.moduleText defaultIndent = .ok text ∧
      (decode text).map Statements.rules
        = some ([("😀", .str "error"), ("😀", .int 0)] : List (Text × Json)) := by
  refine ⟨⟨_, _, rfl, rfl⟩, ?_, ?_⟩
  · obtain ⟨b, session', hrun, hentries⟩ : ∃ b session', (ofConfig (Loader.builtin none) (withRules
        [(.str "1", .str "error"), (.int 1, .str "off")])).runIn (Session.start ())
          = (.ok b, session') ∧
        b.rules.entries = [(.str "1", .str "error"), (.int 1, .int 0)] :=
      ⟨_, _, rfl, rfl⟩
    have htable : Json.imageEntries [] b.rules.entries
        = .ok [("1", .str "error"), (.ofChars (intText 1), .int 0)] := by
      rw [hentries]
      rfl
    obtain ⟨text, htext, hrules⟩ := exists_decoded_rules hrun htable
    refine ⟨b, session', text, hrun, htext, hrules.trans ?_⟩
    have hname : (Text.ofChars (intText 1)).paired = "1" := by decide
    simp only [Json.pairedMembers, Json.paired, hname, Text.paired_ofString]
  · obtain ⟨b, session', hrun, hentries⟩ : ∃ b session', (ofConfig (Loader.builtin none) (withRules
        [(.str "😀", .str "error"), (.str ⟨[.half 0x3d, .half 0x600]⟩, .str "off")])).runIn
        (Session.start ()) = (.ok b, session') ∧
        b.rules.entries
          = [(.str "😀", .str "error"), (.str ⟨[.half 0x3d, .half 0x600]⟩, .int 0)] :=
      ⟨_, _, rfl, rfl⟩
    have htable : Json.imageEntries [] b.rules.entries
        = .ok [("😀", .str "error"), (⟨[.half 0x3d, .half 0x600]⟩, .int 0)] := by
      rw [hentries]
      rfl
    obtain ⟨text, htext, hrules⟩ := exists_decoded_rules hrun htable
    refine ⟨b, session', text, hrun, htext, hrules.trans ?_⟩
    have hname : Text.paired ⟨[.half 0x3d, .half 0x600]⟩ = "😀" := by decide +kernel
    simp only [Json.pairedMembers, Json.paired, hname, Text.paired_ofString]

end Bundle

end LintBundle
