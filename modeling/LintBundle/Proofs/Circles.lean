import LintBundle.Proofs.Spelling
import LintBundle.Proofs.Tables
import Mathlib.Data.List.Chain
import Mathlib.Logic.Relation

/-!
# Proofs/Circles — an expansion fails for a circle exactly where there is one

Configs lead to the configs they extend.  The chain of an expansion is a walk along that relation,
through distinct configs; so a config met again closes a circle, and the texts reported walk around
it.  Conversely an expansion that comes to an end has gone down from every config to configs without
parents, so none of them leads to itself.
-/

namespace LintBundle

namespace Extends

open Relation (TransGen)

variable {f : Text → Except Fault Value}

/-! ## Configs that lead to configs -/

/-- A config leads to the configs it extends. -/
def Leads (f : Text → Except Fault Value) (key key' : ConfigKey) : Prop :=
  ∃ document reference found, served f key = .ok document ∧ reference ∈ document.parents ∧
    Naming.config reference = .ok found ∧ keyOf found = key'

/-- A reference that is given, or that a config extends to which such a reference leads. -/
inductive Reached (f : Text → Except Fault Value) (given : List Value) : Value → Prop
  | given {reference : Value} (h : reference ∈ given) : Reached f given reference
  | parent {reference parent : Value} {found : ConfigRef} {document : Document}
      (h : Reached f given reference) (opens : Opens f reference found document)
      (extended : parent ∈ document.parents) : Reached f given parent

/-- **Configs without faults**: every reference there is leads to a config, the rule ids of which
are texts. -/
def WellFormed (f : Text → Except Fault Value) (given : List Value) : Prop :=
  ∀ reference, Reached f given reference → ∃ found document, Opens f reference found document ∧
    ∀ e ∈ document.rules.entries, ∃ id, e.1 = .str id

/-- Some config that is reached leads to itself. -/
def HasCircle (f : Text → Except Fault Value) (given : List Value) : Prop :=
  ∃ reference found, Reached f given reference ∧ Naming.config reference = .ok found ∧
    TransGen (Leads f) (keyOf found) (keyOf found)

/-! ## Walks -/

/-- A text that names a config which extends the next text. -/
def ExtendsTo (f : Text → Except Fault Value) (reference parent : Text) : Prop :=
  ∃ found document, Opens f (.str reference) found document ∧ .str parent ∈ document.parents

/-- Two texts that name one config. -/
def SameConfig (reference reference' : Text) : Prop :=
  ∃ found found', Naming.config (.str reference) = .ok found ∧
    Naming.config (.str reference') = .ok found' ∧ keyOf found = keyOf found'

/-- References one after the other, the first of them given. -/
structure Walk (f : Text → Except Fault Value) (given : List Value) (walk : List Text) :
    Prop where
  first : ∀ reference ∈ walk.head?, .str reference ∈ given
  steps : walk.IsChain (ExtendsTo f)

/-- **A walk that goes on through distinct configs until it comes to one a second time.** -/
structure ClosedWalk (f : Text → Except Fault Value) (given : List Value)
    (before : List Text) (last : Text) : Prop where
  walk : Walk f given (before ++ [last])
  distinct : before.Pairwise fun reference reference' => ¬ SameConfig reference reference'
  closes : ∃ reference ∈ before, SameConfig reference last

/-- What a walk comes by is reached. -/
theorem Walk.reached {given : List Value} {walk : List Text} (h : Walk f given walk) :
    ∀ reference ∈ walk, Reached f given (.str reference) := by
  refine h.steps.induction (fun reference => Reached f given (.str reference)) walk ?_ ?_
  · rintro reference parent ⟨found, document, opens, extended⟩ hreached
    exact hreached.parent opens extended
  · intro hne
    exact .given (h.first _ (List.head?_eq_some_head hne))

theorem ExtendsTo.leads {reference parent : Text} {found found' : ConfigRef}
    (h : ExtendsTo f reference parent) (reads : Naming.config (.str reference) = .ok found)
    (reads' : Naming.config (.str parent) = .ok found') :
    Leads f (keyOf found) (keyOf found') := by
  obtain ⟨found₁, document, opens, extended⟩ := h
  obtain rfl : found = found₁ := Except.ok.inj (reads.symm.trans opens.1)
  exact ⟨document, .str parent, found', opens.2, extended, reads', rfl⟩

/-- A walk of texts is one of configs. -/
theorem transGen_leads {reference last : Text} {found found' : ConfigRef}
    (h : TransGen (ExtendsTo f) reference last)
    (reads : Naming.config (.str reference) = .ok found)
    (reads' : Naming.config (.str last) = .ok found') :
    TransGen (Leads f) (keyOf found) (keyOf found') := by
  induction h generalizing found' with
  | single h => exact .single (h.leads reads reads')
  | tail _ h ih =>
    obtain ⟨found₁, _, opens, _⟩ := id h
    exact (ih opens.1).tail (h.leads opens.1 reads')

/-- **A closed walk goes around a circle.** -/
theorem ClosedWalk.hasCircle {given : List Value} {before : List Text} {last : Text}
    (h : ClosedWalk f given before last) : HasCircle f given := by
  obtain ⟨reference, hbefore, found, found', reads, reads', hsame⟩ := h.closes
  have hpairs : (before ++ [last]).Pairwise (TransGen (ExtendsTo f)) :=
    List.isChain_iff_pairwise.1 (h.walk.steps.imp fun _ _ => .single)
  have hpath : TransGen (ExtendsTo f) reference last :=
    (List.pairwise_append.1 hpairs).2.2 reference hbefore last (List.mem_singleton_self last)
  refine ⟨.str reference, found, h.walk.reached _ (List.mem_append_left _ hbefore), reads, ?_⟩
  have hleads := transGen_leads hpath reads reads'
  rwa [← hsame] at hleads

/-! ## The chain of an expansion is a walk -/

/-- **What the chain of an expansion and the references that are its turn have to do with the
references given.** -/
structure Trail (f : Text → Except Fault Value) (given : List Value) (chain : List Link)
    (references : List Value) : Prop where
  /-- A link has the key of the config that its text names. -/
  named : ∀ link ∈ chain, ∃ found,
    Naming.config (.str link.reference) = .ok found ∧ keyOf found = link.key
  distinct : (chain.map Link.key).Nodup
  reached : ∀ reference ∈ references, Reached f given reference
  /-- Each reference goes on with the walk of the chain. -/
  walks : ∀ reference, .str reference ∈ references →
    Walk f given (chain.map Link.reference ++ [reference])

theorem Trail.start (given : List Value) : Trail f given [] given where
  named := by simp
  distinct := List.nodup_nil
  reached := fun _ => .given
  walks := fun reference h => ⟨by simpa using h, List.IsChain.singleton reference⟩

/-- References are left out one by one. -/
theorem Trail.rest {given : List Value} {chain : List Link} {reference : Value}
    {references : List Value} (h : Trail f given chain (reference :: references)) :
    Trail f given chain references where
  named := h.named
  distinct := h.distinct
  reached := fun r hr => h.reached r (List.mem_cons_of_mem _ hr)
  walks := fun r hr => h.walks r (List.mem_cons_of_mem _ hr)

/-- **Going down into a config** makes the walk longer by the reference that led there. -/
theorem Trail.down {given : List Value} {chain : List Link} {text : Text} {found : ConfigRef}
    {document : Document} {references : List Value}
    (h : Trail f given chain (.str text :: references)) (opens : Opens f (.str text) found document)
    (isNew : IsNew chain found) :
    Trail f given (chain ++ [⟨keyOf found, text⟩]) document.parents where
  named := by
    intro link hlink
    rcases List.mem_append.1 hlink with hlink | hlink
    · exact h.named link hlink
    · obtain rfl := List.mem_singleton.1 hlink
      exact ⟨found, opens.1, rfl⟩
  distinct := by
    rw [List.map_append]
    exact isNew.nodup h.distinct
  reached := fun parent hparent => (h.reached _ (List.mem_cons_self ..)).parent opens hparent
  walks := by
    intro parent hparent
    have hwalk := h.walks text (List.mem_cons_self ..)
    have hstep : ExtendsTo f text parent := ⟨found, document, opens, hparent⟩
    rw [List.map_append]
    constructor
    · intro reference hreference
      refine hwalk.first reference ?_
      rwa [List.head?_append_of_ne_nil _ (by simp)] at hreference
    · rw [List.isChain_append]
      refine ⟨hwalk.steps, List.IsChain.singleton parent, ?_⟩
      simpa using hstep

/-- **A chain that meets a config again is a closed walk.** -/
theorem Trail.closed {given : List Value} {chain : List Link} {text : Text} {found : ConfigRef}
    {references : List Value} (h : Trail f given chain (.str text :: references))
    (reads : Naming.config (.str text) = .ok found) (known : ¬ IsNew chain found) :
    ClosedWalk f given (chain.map Link.reference) text where
  walk := h.walks text (List.mem_cons_self ..)
  distinct := by
    rw [List.pairwise_map]
    have hkeys := List.pairwise_map.1 h.distinct
    refine hkeys.imp_of_mem ?_
    rintro link link' hlink hlink' hne ⟨found₁, found₂, reads₁, reads₂, hsame⟩
    obtain ⟨found₁', reads₁', hkey⟩ := h.named link hlink
    obtain ⟨found₂', reads₂', hkey'⟩ := h.named link' hlink'
    obtain rfl := Except.ok.inj (reads₁.symm.trans reads₁')
    obtain rfl := Except.ok.inj (reads₂.symm.trans reads₂')
    exact hne (hkey.symm.trans (hsame.trans hkey'))
  closes := by
    obtain ⟨link, hlink, hkey⟩ : ∃ link ∈ chain, link.key = keyOf found := by
      simpa [IsNew] using known
    obtain ⟨found', reads', hkey'⟩ := h.named link hlink
    exact ⟨link.reference, List.mem_map_of_mem hlink, found', found, reads', reads,
      hkey'.trans hkey⟩

/-! ## Expansions of configs without faults -/

/-- Only texts name configs. -/
theorem eq_str_of_config {reference : Value} {found : ConfigRef}
    (h : Naming.config reference = .ok found) : ∃ text, reference = .str text := by
  cases reference with
  | str text => exact ⟨text, rfl⟩
  | _ => cases h

/-- Rule ids that are texts can be qualified. -/
theorem qualifiedRules_ok (plugin : PluginRef) {entries : List (Value × Value)}
    (h : ∀ e ∈ entries, ∃ id, e.1 = .str id) : ∃ own, qualifiedRules plugin entries = .ok own := by
  induction entries with
  | nil => exact ⟨[], rfl⟩
  | cons e entries ih =>
    obtain ⟨id, hid⟩ := h e (List.mem_cons_self ..)
    obtain ⟨own, hown⟩ := ih fun e' he' => h e' (List.mem_cons_of_mem _ he')
    rw [qualifiedRules] at hown
    refine ⟨(.str (Naming.qualified plugin id), e.2) :: own, ?_⟩
    rw [qualifiedRules, List.mapM_cons, hown, hid]
    rfl

/-- **Where configs are without faults, an expansion fails on a closed walk only**, and reports
it. -/
theorem Expands.closedWalk {given : List Value} (wf : WellFormed f given) {chain : List Link}
    {references : List Value} {fault : Fault} (h : Expands f chain references (.error fault))
    (trail : Trail f given chain references) :
    ∃ before last, fault = .circularExtends (before ++ [last]) ∧
      ClosedWalk f given before last := by
  generalize ho : (Except.error fault : Except _ (List (Value × Value))) = outcome at h
  induction h with
  | nil => cases ho
  | cons => cases ho
  | unreadable reads =>
    obtain ⟨_, _, opens, _⟩ := wf _ (trail.reached _ (List.mem_cons_self ..))
    cases reads.symm.trans opens.1
  | circular reads known =>
    obtain ⟨text, rfl⟩ := eq_str_of_config reads
    exact ⟨_, text, Except.error.inj ho, trail.closed reads known⟩
  | unserved reads _ serves =>
    obtain ⟨_, _, opens, _⟩ := wf _ (trail.reached _ (List.mem_cons_self ..))
    obtain rfl := Except.ok.inj (reads.symm.trans opens.1)
    cases serves.symm.trans opens.2
  | inherited opens isNew _ ih =>
    obtain ⟨text, rfl⟩ := eq_str_of_config opens.1
    exact ih (trail.down opens isNew) ho
  | rule opens _ _ rules _ =>
    obtain ⟨_, _, opens', hids⟩ := wf _ (trail.reached _ (List.mem_cons_self ..))
    obtain ⟨rfl, rfl⟩ := opens.unique opens'
    obtain ⟨own, hown⟩ := qualifiedRules_ok _ hids
    cases rules.symm.trans hown
  | later _ _ _ _ _ _ ih => exact ih trail.rest ho

/-- **Configs with a flat list of rules lead down to configs without parents.** -/
theorem Flat.acc {references : List Value} {l : List (Value × Value)} (h : Flat f references l) :
    ∀ reference ∈ references, ∀ found, Naming.config reference = .ok found →
      Acc (Function.swap (Leads f)) (keyOf found) := by
  induction h with
  | nil => simp
  | cons opens _ _ _ ihParents ihRest =>
    intro reference hreference found' reads
    rcases List.mem_cons.1 hreference with rfl | hreference
    · obtain rfl := Except.ok.inj (reads.symm.trans opens.1)
      refine Acc.intro _ ?_
      rintro key ⟨document', parent, found', serves, extended, reads', rfl⟩
      obtain rfl := Except.ok.inj (serves.symm.trans opens.2)
      exact ihParents parent extended found' reads'
    · exact ihRest reference hreference found' reads

/-- What can be gone down from to the end is not below itself. -/
theorem not_transGen_self {key : ConfigKey} (h : Acc (Function.swap (Leads f)) key) :
    ¬ TransGen (Leads f) key key := by
  intro hcircle
  have hdown : TransGen (Function.swap (Leads f)) key key := Relation.transGen_swap.2 hcircle
  induction h.transGen with
  | intro key _ ih => exact ih key hdown ‹_› hcircle hdown

/-- **References with a flat list of rules reach no circle.** -/
theorem Flat.not_hasCircle {given : List Value} {l : List (Value × Value)} (h : Flat f given l) :
    ¬ HasCircle f given := by
  rintro ⟨reference, found, reached, reads, hcircle⟩
  have hacc : ∀ found, Naming.config reference = .ok found →
      Acc (Function.swap (Leads f)) (keyOf found) := by
    clear reads hcircle
    induction reached with
    | given hgiven => exact h.acc _ hgiven
    | parent _ opens extended ih =>
      intro found' reads
      exact (ih _ opens.1).inv ⟨_, _, found', opens.2, extended, reads, rfl⟩
  exact not_transGen_self (hacc found reads) hcircle

end Extends

/-! ## Spellings of one config -/

namespace Extends

/-- **Texts that name one config in two ways**: with a package's prefix or without it, and the
built-in package with or without the word for plugins. -/
inductive Respelled : Text → Text → Prop
  | prefixed {name config : Text} (hn : Naming.Plain name.toList)
      (hs : name.toList.head? ≠ some (.char '@'))
      (hw : Naming.withoutPrefix name.toList = name.toList)
      (hc : Naming.Plain config.toList) :
      Respelled ("plugin:" ++ name ++ "/" ++ config)
        ("plugin:" ++ packagePrefix ++ name ++ "/" ++ config)
  | builtin {config : Text} (hc : Naming.Plain config.toList) :
      Respelled ("bpmnlint:" ++ config) ("plugin:bpmnlint/" ++ config)

/-- A text names the config that its characters name. -/
theorem config_str_of_some {text : Text} {cs : List Point} {found : ConfigRef}
    (ht : text.toList = cs) (h : Naming.config? cs = some found) :
    Naming.config (.str text) = .ok found := by
  rw [Naming.config, ht, h]
  rfl

theorem Respelled.sameConfig {text text' : Text} (h : Respelled text text') :
    SameConfig text text' := by
  cases h with
  | @prefixed name config hn hs hw hc =>
    have hs' : (packagePrefix.toList ++ name.toList).head? ≠ some (.char '@') := by
      simp [packagePrefix]
    have h₁ : Naming.config (.str ("plugin:" ++ name ++ "/" ++ config)) = .ok _ :=
      config_str_of_some (by simp only [Text.toList_append, List.append_assoc]; rfl)
        (Naming.config?_plugin hn hs hc)
    have h₂ : Naming.config (.str ("plugin:" ++ packagePrefix ++ name ++ "/" ++ config)) = .ok _ :=
      config_str_of_some (by simp only [Text.toList_append, List.append_assoc]; rfl)
        (Naming.config?_plugin hn.prefixed hs' hc)
    rw [Naming.plugin_prefix hn.nonempty hs hw] at h₂
    exact ⟨_, _, h₁, h₂, rfl⟩
  | @builtin config hc =>
    have hn : Naming.Plain builtinPackage.toList := ⟨by simp [builtinPackage], by decide⟩
    have h₁ : Naming.config (.str ("bpmnlint:" ++ config)) = .ok _ :=
      config_str_of_some (by simp only [Text.toList_append]; rfl) (Naming.config?_builtin hc)
    have h₂ : Naming.config (.str ("plugin:bpmnlint/" ++ config)) = .ok _ :=
      config_str_of_some (by simp only [Text.toList_append]; rfl)
        (Naming.config?_plugin hn (by simp [builtinPackage]) hc)
    have hplugin : Naming.plugin builtinPackage.toList = .builtin := by decide
    rw [hplugin] at h₂
    exact ⟨_, _, h₁, h₂, rfl⟩

/-! ## Detection -/

/-- **What an expansion has to say about circles**: it fails for one exactly where there is one,
comes to its end everywhere else, and the texts it reports walk around a circle. -/
structure DetectsCircles (f : Text → Except Fault Value) (references : List Value)
    (outcome : Except Fault Ruleset) : Prop where
  circular_iff : (∃ chain, outcome = .error (.circularExtends chain)) ↔ HasCircle f references
  ok_iff : (∃ rules, outcome = .ok rules) ↔ ¬ HasCircle f references
  reported : ∀ chain, outcome = .error (.circularExtends chain) →
    ∃ before last, chain = before ++ [last] ∧ ClosedWalk f references before last

/-- An expansion with depth enough detects circles, if the configs are without faults. -/
theorem Yields.detectsCircles {n : Nat} {references : List Value}
    {outcome : Except Fault Ruleset} (wf : WellFormed f references)
    (hn : ¬ ServesMoreThan f n) (h : Yields f references n [] references {} outcome) :
    DetectsCircles f references outcome := by
  cases outcome with
  | ok rules =>
    obtain ⟨l, hexpands, rfl⟩ := h
    have hno : ¬ HasCircle f references := hexpands.flat.not_hasCircle
    exact ⟨⟨by simp, fun hc => absurd hc hno⟩, ⟨fun _ => hno, fun _ => ⟨_, rfl⟩⟩, by simp⟩
  | error fault =>
    rcases h with hexpands | ⟨_, hmore⟩
    case inr => exact absurd hmore.servesMoreThan hn
    obtain ⟨before, last, rfl, hwalk⟩ := hexpands.closedWalk wf (Trail.start references)
    have hcircle : HasCircle f references := hwalk.hasCircle
    refine ⟨⟨fun _ => hcircle, fun _ => ⟨_, rfl⟩⟩, ⟨by simp, fun hno => absurd hcircle hno⟩, ?_⟩
    intro chain hchain
    obtain rfl : before ++ [last] = chain := by simpa using hchain
    exact ⟨before, last, rfl, hwalk⟩

/-- **Circles are detected exactly.**  Where the modules of a finite table are served, in a session
that remembers nothing else, and every reference there is leads to a config without faults, an
expansion fails for a circle exactly where some config leads to itself, however it is spelled; it
reports a closed walk; and it succeeds everywhere else. -/
theorem detects_circles {loader : Loader Modules} (table : loader.OfTable)
    {session : Session Modules}
    (faithful : Session.Faithful loader (loader.answer session.world) session)
    {entry : Value} {references : List Value} (reads : Document.references entry = .ok references)
    (wf : WellFormed (loader.answer session.world) references) :
    DetectsCircles (loader.answer session.world) references
        ((rulesOfEntry loader entry).runIn session).1 ∧
      ∀ text text', Respelled text text' → SameConfig text text' := by
  refine ⟨?_, fun text text' => Respelled.sameConfig⟩
  have hcount := (counted_ofTable table session.world).not_servesMoreThan
    (bound_le_configBound loader session)
  simp only [rulesOfEntry, reads]
  exact (rulesOf_yields faithful references).detectsCircles wf hcount

/-- Two configs that extend each other, under two spellings of their plugin. -/
def twins : Modules where
  entries := [("bpmnlint-plugin-pair", .ok (Builtin.record [("configs", Builtin.record
    [ ("one", Builtin.record [("extends", .list [.str "plugin:bpmnlint-plugin-pair/two"]),
        ("rules", Builtin.errors ["first"])]),
      ("two", Builtin.record [("extends", .str "plugin:pair/one")]) ])]))]
  requested := []

/-- What the references of the two configs lead to. -/
theorem opens_twins :
    (∃ document, Opens (Loader.modules.answer twins) (.str "plugin:pair/one")
      ⟨⟨"pair", none⟩, "one"⟩ document ∧
      document.parents = [.str "plugin:bpmnlint-plugin-pair/two"] ∧
      document.rules.entries = [(.str "first", .str "error")]) ∧
    ∃ document, Opens (Loader.modules.answer twins) (.str "plugin:bpmnlint-plugin-pair/two")
      ⟨⟨"pair", none⟩, "two"⟩ document ∧
      document.parents = [.str "plugin:pair/one"] ∧ document.rules.entries = [] :=
  ⟨⟨_, ⟨rfl, rfl⟩, rfl, rfl⟩, ⟨_, ⟨rfl, rfl⟩, rfl, rfl⟩⟩

theorem wellFormed_twins : WellFormed (Loader.modules.answer twins) [.str "plugin:pair/one"] := by
  obtain ⟨⟨one, opensOne, parentsOne, rulesOne⟩, two, opensTwo, parentsTwo, rulesTwo⟩ := opens_twins
  have hreached : ∀ reference,
      Reached (Loader.modules.answer twins) [.str "plugin:pair/one"] reference →
        reference = .str "plugin:pair/one" ∨
          reference = .str "plugin:bpmnlint-plugin-pair/two" := by
    intro reference h
    induction h with
    | given h => exact .inl (List.mem_singleton.1 h)
    | parent _ opens extended ih =>
      rcases ih with rfl | rfl
      · obtain ⟨_, rfl⟩ := opens.unique opensOne
        exact .inr (List.mem_singleton.1 (parentsOne ▸ extended))
      · obtain ⟨_, rfl⟩ := opens.unique opensTwo
        exact .inl (List.mem_singleton.1 (parentsTwo ▸ extended))
  intro reference h
  rcases hreached reference h with rfl | rfl
  · exact ⟨_, one, opensOne, by simp [rulesOne]⟩
  · exact ⟨_, two, opensTwo, by simp [rulesTwo]⟩

theorem hasCircle_twins : HasCircle (Loader.modules.answer twins) [.str "plugin:pair/one"] := by
  obtain ⟨⟨one, opensOne, parentsOne, _⟩, two, opensTwo, parentsTwo, _⟩ := opens_twins
  refine ⟨.str "plugin:pair/one", _, .given (List.mem_singleton_self _), opensOne.1, ?_⟩
  have down : Leads (Loader.modules.answer twins) _ _ :=
    ⟨one, _, _, opensOne.2, by rw [parentsOne]; exact List.mem_singleton_self _, opensTwo.1, rfl⟩
  have around : Leads (Loader.modules.answer twins) _ _ :=
    ⟨two, _, _, opensTwo.2, by rw [parentsTwo]; exact List.mem_singleton_self _, opensOne.1, rfl⟩
  exact .tail (.single down) around

/-- The circle of two configs is found. -/
theorem detects_circles_twins :
    Session.Faithful Loader.modules (Loader.modules.answer twins) (Session.start twins) ∧
      WellFormed (Loader.modules.answer twins) [.str "plugin:pair/one"] ∧
      ∃ chain, ((rulesOfEntry Loader.modules (.str "plugin:pair/one")).runIn
        (Session.start twins)).1 = .error (.circularExtends chain) := by
  have faithful := Session.Faithful.start (Loader.OfTable.modules.settled twins)
  have hdetects := (@detects_circles _ .modules (Session.start twins) faithful
    (.str "plugin:pair/one") _ rfl wellFormed_twins).1
  exact ⟨faithful, wellFormed_twins, hdetects.circular_iff.2 hasCircle_twins⟩

end Extends

end LintBundle
