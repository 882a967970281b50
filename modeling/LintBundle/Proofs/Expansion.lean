import LintBundle.Extends
import LintBundle.Proofs.Merging
import LintBundle.Proofs.Resolving

/-!
# Proofs/Expansion — the rules of referenced configs are one flat list, folded

    references ──Flat──▸ (id, value) pairs, depth first ──merged──▸ rules

A run expands configs level by level and merges the levels.  Against a loader that answers by a
function it is `expandBy`, which sees no session; that yields the fold of the flat list of rules,
or the fault of the first step that fails (`expandBy_yields`).  What is left is the bound on the
depth: it is reached only where more configs are in progress at once than the loader counts, inside
the expansion of these very references (`Overruns`).
-/

namespace LintBundle.Extends

variable {σ : Type} {loader : Loader σ} {f : Text → Except Fault Value}

/-! ## Configs as a function serves them -/

/-- The config of a key. -/
def served (f : Text → Except Fault Value) (key : ConfigKey) : Except Fault Document := do
  Session.namedConfig (← Session.manifestBy f key.specifier) key.specifier key.config

/-- A reference that leads to a config. -/
def Opens (f : Text → Except Fault Value) (reference : Value) (found : ConfigRef)
    (document : Document) : Prop :=
  Naming.config reference = .ok found ∧ served f (keyOf found) = .ok document

/-- The rules of a plugin's config, with the ids they have from outside. -/
def qualifiedRules (plugin : PluginRef) (entries : List (Value × Value)) :
    Except Fault (List (Value × Value)) :=
  entries.mapM fun e => do return (.str (← Naming.qualify plugin e.1), e.2)

/-! ## The flat list and the first failure -/

/-- **The rules of referenced configs, depth first**: of each config first those it inherits, then
its own, under the name of the plugin that the reference to this very config gives. -/
inductive Flat (f : Text → Except Fault Value) : List Value → List (Value × Value) → Prop
  | nil : Flat f [] []
  | cons {reference : Value} {references : List Value} {found : ConfigRef} {document : Document}
      {inherited own later : List (Value × Value)} (opens : Opens f reference found document)
      (parents : Flat f document.parents inherited)
      (rules : qualifiedRules found.plugin document.rules.entries = .ok own)
      (rest : Flat f references later) :
      Flat f (reference :: references) (inherited ++ own ++ later)

/-- A config that is not being expanded. -/
def IsNew (chain : List Link) (found : ConfigRef) : Prop := ∀ link ∈ chain, link.key ≠ keyOf found

/-- Distinct configs and a new one are distinct. -/
theorem IsNew.nodup {chain : List Link} {found : ConfigRef} (isNew : IsNew chain found)
    (h : (chain.map Link.key).Nodup) : (chain.map Link.key ++ [keyOf found]).Nodup := by
  refine List.nodup_append.2 ⟨h, List.nodup_singleton _, ?_⟩
  rintro key hkey _ hfound rfl
  obtain ⟨link, hlink, rfl⟩ := List.mem_map.1 hkey
  exact isNew link hlink (List.mem_singleton.1 hfound)

/-- **What the steps of an expansion come to, depth first**: the flat list if all of them succeed,
or else the fault of the first that fails.  A step fails on a reference that is none, on a config
that is being expanded already, on one that is not served, on a fault among the configs it inherits
from, and on a rule id that cannot be qualified; only then it is the turn of the references that
follow. -/
inductive Expands (f : Text → Except Fault Value) :
    List Link → List Value → Except Fault (List (Value × Value)) → Prop
  | nil {chain : List Link} : Expands f chain [] (.ok [])
  | unreadable {chain : List Link} {reference : Value} {references : List Value} {fault : Fault}
      (reads : Naming.config reference = .error fault) :
      Expands f chain (reference :: references) (.error fault)
  | circular {chain : List Link} {reference : Value} {references : List Value} {found : ConfigRef}
      (reads : Naming.config reference = .ok found) (known : ¬ IsNew chain found) :
      Expands f chain (reference :: references)
        (.error (.circularExtends (chain.map Link.reference ++ [reference.display])))
  | unserved {chain : List Link} {reference : Value} {references : List Value} {found : ConfigRef}
      {fault : Fault} (reads : Naming.config reference = .ok found) (isNew : IsNew chain found)
      (serves : served f (keyOf found) = .error fault) :
      Expands f chain (reference :: references) (.error fault)
  | inherited {chain : List Link} {reference : Value} {references : List Value}
      {found : ConfigRef} {document : Document} {fault : Fault}
      (opens : Opens f reference found document) (isNew : IsNew chain found)
      (parents :
        Expands f (chain ++ [⟨keyOf found, reference.display⟩]) document.parents (.error fault)) :
      Expands f chain (reference :: references) (.error fault)
  | rule {chain : List Link} {reference : Value} {references : List Value} {found : ConfigRef}
      {document : Document} {inherited : List (Value × Value)} {fault : Fault}
      (opens : Opens f reference found document) (isNew : IsNew chain found)
      (parents :
        Expands f (chain ++ [⟨keyOf found, reference.display⟩]) document.parents (.ok inherited))
      (rules : qualifiedRules found.plugin document.rules.entries = .error fault) :
      Expands f chain (reference :: references) (.error fault)
  | later {chain : List Link} {reference : Value} {references : List Value} {found : ConfigRef}
      {document : Document} {inherited own : List (Value × Value)} {fault : Fault}
      (opens : Opens f reference found document) (isNew : IsNew chain found)
      (parents :
        Expands f (chain ++ [⟨keyOf found, reference.display⟩]) document.parents (.ok inherited))
      (rules : qualifiedRules found.plugin document.rules.entries = .ok own)
      (rest : Expands f chain references (.error fault)) :
      Expands f chain (reference :: references) (.error fault)
  | cons {chain : List Link} {reference : Value} {references : List Value} {found : ConfigRef}
      {document : Document} {inherited own later : List (Value × Value)}
      (opens : Opens f reference found document) (isNew : IsNew chain found)
      (parents :
        Expands f (chain ++ [⟨keyOf found, reference.display⟩]) document.parents (.ok inherited))
      (rules : qualifiedRules found.plugin document.rules.entries = .ok own)
      (rest : Expands f chain references (.ok later)) :
      Expands f chain (reference :: references) (.ok (inherited ++ own ++ later))

/-- A reference leads to one config. -/
theorem Opens.unique {reference : Value} {found found' : ConfigRef} {document document' : Document}
    (h : Opens f reference found document) (h' : Opens f reference found' document') :
    found = found' ∧ document = document' := by
  obtain ⟨hn, hs⟩ := h
  obtain ⟨hn', hs'⟩ := h'
  obtain rfl : found = found' := Except.ok.inj (hn.symm.trans hn')
  exact ⟨rfl, Except.ok.inj (hs.symm.trans hs')⟩

/-- **References have one flat list.** -/
theorem Flat.unique {references : List Value} {l l' : List (Value × Value)}
    (h : Flat f references l) (h' : Flat f references l') : l = l' := by
  induction h generalizing l' with
  | nil => cases h'; rfl
  | cons opens _ rules _ ihParents ihRest =>
    cases h' with
    | cons opens' parents' rules' rest' =>
      obtain ⟨rfl, rfl⟩ := opens.unique opens'
      rw [ihParents parents', ihRest rest', Except.ok.inj (rules.symm.trans rules')]

/-- **The steps of an expansion come to one outcome.** -/
theorem Expands.unique {chain : List Link} {references : List Value}
    {outcome outcome' : Except Fault (List (Value × Value))}
    (h : Expands f chain references outcome) (h' : Expands f chain references outcome') :
    outcome = outcome' := by
  induction h generalizing outcome' with
  | nil => cases h'; rfl
  | unreadable reads => cases h' <;> grind [Opens]
  | circular reads known => cases h' <;> grind [Opens]
  | unserved reads isNew serves => cases h' <;> grind [Opens]
  | inherited opens isNew parents ih => cases h' <;> grind [Opens]
  | rule opens isNew parents rules ih => cases h' <;> grind [Opens]
  | later opens isNew parents rules rest ihParents ihRest => cases h' <;> grind [Opens]
  | cons opens isNew parents rules rest ihParents ihRest => cases h' <;> grind [Opens]

/-- An expansion whose steps all succeed comes to the flat list. -/
theorem Expands.flat {chain : List Link} {references : List Value} {l : List (Value × Value)}
    (h : Expands f chain references (.ok l)) : Flat f references l := by
  generalize ho : (Except.ok l : Except Fault _) = outcome at h
  induction h generalizing l with
  | nil =>
    obtain rfl := Except.ok.inj ho
    exact .nil
  | cons opens _ _ rules _ ihParents ihRest =>
    obtain rfl := Except.ok.inj ho
    exact .cons opens (ihParents rfl) rules (ihRest rfl)
  | _ => cases ho

/-! ## Expansion without a session -/

/-- What a reference adds to the rules found before it. -/
def visit (f : Text → Except Fault Value)
    (inherit : List Link → List Value → Except Fault Ruleset) (chain : List Link) (rules : Ruleset)
    (reference : Value) : Except Fault Ruleset := do
  let found ← Naming.config reference
  if chain.any fun link => link.key = keyOf found then
    throw (.circularExtends (chain.map Link.reference ++ [reference.display]))
  let document ← served f (keyOf found)
  let inherited ← inherit (chain ++ [⟨keyOf found, reference.display⟩]) document.parents
  insertQualified found.plugin (rules.insertAll inherited.entries) document.rules.entries

/-- The rules of referenced configs, as a function serves them. -/
def expandBy (f : Text → Except Fault Value) : Nat → List Link → List Value →
    Except Fault Ruleset
  | 0, _, references => if references.isEmpty then .ok {} else .error .tooDeep
  | depth + 1, chain, references => references.foldlM (visit f (expandBy f depth) chain) {}

/-- What a reference adds in a run. -/
def visitIn (loader : Loader σ) (inherit : List Link → List Value → Resolving σ Ruleset)
    (chain : List Link) (rules : Ruleset) (reference : Value) : Resolving σ Ruleset := do
  let found ← MonadExcept.ofExcept (Naming.config reference)
  if chain.any fun link => link.key = keyOf found then
    throw (.circularExtends (chain.map Link.reference ++ [reference.display]))
  let document ← Session.config loader found.plugin found.config
  let inherited ← inherit (chain ++ [⟨keyOf found, reference.display⟩]) document.parents
  MonadExcept.ofExcept
    (insertQualified found.plugin (rules.insertAll inherited.entries) document.rules.entries)

theorem expand_succ (depth : Nat) (chain : List Link) (references : List Value) :
    expand loader (depth + 1) chain references
      = references.foldlM (visitIn loader (expand loader depth) chain) {} := rfl

open Resolving (Follows) in
/-- A reference adds in a run what it adds as the loader's function serves. -/
theorem follows_visitIn {inherit : List Link → List Value → Resolving σ Ruleset}
    {inherit' : List Link → List Value → Except Fault Ruleset}
    (h : ∀ chain references,
      Follows loader f (inherit chain references) (inherit' chain references))
    (chain : List Link) (rules : Ruleset) (reference : Value) :
    Follows loader f (visitIn loader inherit chain rules reference)
      (visit f inherit' chain rules reference) := by
  refine Follows.bind (Follows.ofExcept _) fun found => ?_
  refine Follows.ite (Follows.bind (Follows.throw _) fun _ => ?_) ?_ <;>
  · refine Follows.bind (Session.follows_config found.plugin found.config) fun document => ?_
    exact Follows.bind (h _ _) fun inherited => Follows.ofExcept _

open Resolving (Follows) in
/-- **A run expands as the loader's function serves.** -/
theorem follows_expand (depth : Nat) (chain : List Link) (references : List Value) :
    Follows loader f (expand loader depth chain references)
      (expandBy f depth chain references) := by
  induction depth generalizing chain references with
  | zero => exact Follows.ite (Follows.pure _) (Follows.throw _)
  | succ depth ih =>
    rw [expand_succ, expandBy]
    exact Follows.foldlM (fun rules reference => follows_visitIn ih chain rules reference) _ _

/-! ## The outcome of an expansion -/

theorem insertQualified_eq (plugin : PluginRef) (rules : Ruleset) (entries : List (Value × Value)) :
    insertQualified plugin rules entries
      = (qualifiedRules plugin entries).map rules.insertAll := by
  induction entries generalizing rules with
  | nil => rfl
  | cons e entries ih =>
    obtain ⟨id, value⟩ := e
    have hl : insertQualified plugin rules ((id, value) :: entries)
        = Naming.qualify plugin id >>= fun q =>
            insertQualified plugin (rules.insert (.str q) value) entries := by
      simp only [insertQualified, List.foldlM_cons, bind_assoc, pure_bind]
    have hr : qualifiedRules plugin ((id, value) :: entries)
        = Naming.qualify plugin id >>= fun q =>
            (qualifiedRules plugin entries).map ((.str q, value) :: ·) := by
      simp only [qualifiedRules, List.mapM_cons, bind_assoc, pure_bind]
      rfl
    rw [hl, hr]
    cases Naming.qualify plugin id with
    | error fault => rfl
    | ok q =>
      change insertQualified plugin (rules.insert (.str q) value) entries = _
      rw [ih]
      cases qualifiedRules plugin entries <;> rfl

/-- More configs are served than a number says. -/
def ServesMoreThan (f : Text → Except Fault Value) (n : Nat) : Prop :=
  ∃ keys : List ConfigKey,
    keys.Nodup ∧ (∀ key ∈ keys, ∃ document, served f key = .ok document) ∧ n < keys.length

/-- Configs being expanded are distinct, and served. -/
structure Descent (f : Text → Except Fault Value) (chain : List Link) : Prop where
  nodup : (chain.map Link.key).Nodup
  serves : ∀ link ∈ chain, ∃ document, served f link.key = .ok document

theorem Descent.nil : Descent f [] := ⟨List.nodup_nil, by simp⟩

theorem Descent.snoc {chain : List Link} (h : Descent f chain) {reference : Value}
    {found : ConfigRef} {document : Document} (opens : Opens f reference found document)
    (isNew : IsNew chain found) (text : Text) : Descent f (chain ++ [⟨keyOf found, text⟩]) where
  nodup := by
    rw [List.map_append]
    exact isNew.nodup h.nodup
  serves := by
    intro link hlink
    rcases List.mem_append.1 hlink with hlink | hlink
    · exact h.serves link hlink
    · obtain rfl := List.mem_singleton.1 hlink
      exact ⟨document, opens.2⟩

/-- **What an expansion is called with** inside the one of given references: the configs in
progress, and the references that are to be expanded. -/
inductive Call (f : Text → Except Fault Value) (given : List Value) :
    List Link → List Value → Prop
  | start : Call f given [] given
  | down {chain : List Link} {pending : List Value} {reference : Value} {found : ConfigRef}
      {document : Document} (h : Call f given chain pending) (mem : reference ∈ pending)
      (opens : Opens f reference found document) (isNew : IsNew chain found) :
      Call f given (chain ++ [⟨keyOf found, reference.display⟩]) document.parents

/-- **The configs in progress are distinct, and served.** -/
theorem Call.descent {given pending : List Value} {chain : List Link}
    (h : Call f given chain pending) : Descent f chain := by
  induction h with
  | start => exact Descent.nil
  | down _ _ opens isNew ih => exact ih.snoc opens isNew _

/-- Inside the expansion of given references, more configs are in progress at once than a number
says. -/
def Overruns (f : Text → Except Fault Value) (given : List Value) (n : Nat) : Prop :=
  ∃ chain pending, Call f given chain pending ∧ n < chain.length

/-- **More configs in progress are more configs served.** -/
theorem Overruns.servesMoreThan {given : List Value} {n : Nat} (h : Overruns f given n) :
    ServesMoreThan f n := by
  obtain ⟨chain, pending, call, hn⟩ := h
  refine ⟨chain.map Link.key, call.descent.nodup, ?_, by rwa [List.length_map]⟩
  intro key hkey
  obtain ⟨link, hlink, rfl⟩ := List.mem_map.1 hkey
  exact call.descent.serves link hlink

/-- A fault of an expansion: that of the first step that fails, or for want of depth. -/
def Fails (f : Text → Except Fault Value) (given : List Value) (n : Nat) (chain : List Link)
    (references : List Value) (fault : Fault) : Prop :=
  Expands f chain references (.error fault) ∨ (fault = .tooDeep ∧ Overruns f given n)

/-- What an expansion that adds to some rules has to yield, inside the one of given references. -/
def Yields (f : Text → Except Fault Value) (given : List Value) (n : Nat) (chain : List Link)
    (references : List Value) (rules : Ruleset) : Except Fault Ruleset → Prop
  | .ok result => ∃ l, Expands f chain references (.ok l) ∧ result = rules.insertAll l
  | .error fault => Fails f given n chain references fault

section Visit

variable {inherit : List Link → List Value → Except Fault Ruleset} {chain : List Link}
  {reference : Value} {found : ConfigRef}

theorem visit_unreadable {fault : Fault} (rules : Ruleset)
    (reads : Naming.config reference = .error fault) :
    visit f inherit chain rules reference = .error fault := by
  rw [visit, reads]
  rfl

theorem visit_circular (rules : Ruleset) (reads : Naming.config reference = .ok found)
    (known : ¬ IsNew chain found) :
    visit f inherit chain rules reference
      = .error (.circularExtends (chain.map Link.reference ++ [reference.display])) := by
  have hk : (chain.any fun link => link.key = keyOf found) = true := by
    simpa [IsNew] using known
  simp only [visit, reads, bind, Except.bind, hk]
  rfl

theorem visit_isNew (rules : Ruleset) (reads : Naming.config reference = .ok found)
    (isNew : IsNew chain found) :
    visit f inherit chain rules reference = (do
      let document ← served f (keyOf found)
      let inherited ← inherit (chain ++ [⟨keyOf found, reference.display⟩]) document.parents
      insertQualified found.plugin (rules.insertAll inherited.entries) document.rules.entries) := by
  have hk : (chain.any fun link => link.key = keyOf found) = false := by
    simpa [IsNew] using isNew
  simp only [visit, reads, bind, Except.bind, hk]
  rfl

end Visit

/-- What a reference has to add to some rules, before the references that follow. -/
def Adds (f : Text → Except Fault Value) (given : List Value) (n : Nat) (chain : List Link)
    (reference : Value) (references : List Value) (rules : Ruleset) :
    Except Fault Ruleset → Prop
  | .ok result => ∃ found document l own, Opens f reference found document ∧ IsNew chain found ∧
      Expands f (chain ++ [⟨keyOf found, reference.display⟩]) document.parents (.ok l) ∧
      qualifiedRules found.plugin document.rules.entries = .ok own ∧
      result = rules.insertAll (l ++ own)
  | .error fault => Fails f given n chain (reference :: references) fault

/-- **One reference adds its flat list**, or fails where the first of its steps does. -/
theorem visit_adds {given pending : List Value} {n : Nat}
    {inherit : List Link → List Value → Except Fault Ruleset} {chain : List Link}
    (call : Call f given chain pending)
    (hinherit : ∀ link pending, Call f given (chain ++ [link]) pending →
      Yields f given n (chain ++ [link]) pending {} (inherit (chain ++ [link]) pending))
    {reference : Value} (mem : reference ∈ pending) (references : List Value) (rules : Ruleset) :
    Adds f given n chain reference references rules (visit f inherit chain rules reference) := by
  cases reads : Naming.config reference with
  | error fault =>
    rw [visit_unreadable rules reads]
    exact .inl (.unreadable reads)
  | ok found =>
    by_cases isNew : IsNew chain found
    case neg =>
      rw [visit_circular rules reads isNew]
      exact .inl (.circular reads isNew)
    rw [visit_isNew rules reads isNew]
    cases serves : served f (keyOf found) with
    | error fault => exact .inl (.unserved reads isNew serves)
    | ok document =>
      have opens : Opens f reference found document := ⟨reads, serves⟩
      have hin := hinherit _ document.parents (call.down mem opens isNew)
      simp only [bind, Except.bind]
      cases hi : inherit (chain ++ [⟨keyOf found, reference.display⟩]) document.parents with
      | error fault =>
        rw [hi] at hin
        exact hin.imp_left (.inherited opens isNew)
      | ok inherited =>
        rw [hi] at hin
        obtain ⟨l, hl, rfl⟩ := hin
        simp only [insertQualified_eq]
        cases hq : qualifiedRules found.plugin document.rules.entries with
        | error fault => exact .inl (.rule opens isNew hl hq)
        | ok own =>
          refine ⟨found, document, l, own, opens, isNew, hl, hq, ?_⟩
          rw [Ruleset.insertAll_append, ← Ruleset.insertAll_ofList rules l]
          rfl

/-- **References add their flat list**, or fail where the first of their steps does. -/
theorem foldlM_visit_yields {given pending : List Value} {n : Nat}
    {inherit : List Link → List Value → Except Fault Ruleset} {chain : List Link}
    (call : Call f given chain pending)
    (hinherit : ∀ link pending, Call f given (chain ++ [link]) pending →
      Yields f given n (chain ++ [link]) pending {} (inherit (chain ++ [link]) pending))
    {references : List Value} (hsub : ∀ reference ∈ references, reference ∈ pending)
    (rules : Ruleset) :
    Yields f given n chain references rules (references.foldlM (visit f inherit chain) rules) := by
  induction references generalizing rules with
  | nil => exact ⟨[], .nil, rfl⟩
  | cons reference references ih =>
    rw [List.foldlM_cons]
    obtain ⟨mem, hsub⟩ := List.forall_mem_cons.1 hsub
    have hv := visit_adds call hinherit mem references rules
    cases hr : visit f inherit chain rules reference with
    | error fault =>
      rw [hr] at hv
      exact hv
    | ok rules' =>
      rw [hr] at hv
      obtain ⟨found, document, l, own, opens, isNew, parents, hq, rfl⟩ := hv
      have hrest := ih hsub (rules.insertAll (l ++ own))
      change Yields f given n chain _ rules (references.foldlM (visit f inherit chain) _)
      cases hf : references.foldlM (visit f inherit chain) (rules.insertAll (l ++ own)) with
      | error fault =>
        rw [hf] at hrest
        exact hrest.imp_left (.later opens isNew parents hq)
      | ok result =>
        rw [hf] at hrest
        obtain ⟨later, hlater, rfl⟩ := hrest
        refine ⟨l ++ own ++ later, .cons opens isNew parents hq hlater, ?_⟩
        rw [Ruleset.insertAll_append _ (l ++ own)]

/-- **The outcome of an expansion**: the fold of the flat list, or the fault of the first step that
fails; for want of depth only where more configs are in progress than links and depth allow. -/
theorem expandBy_yields {given references : List Value} {n : Nat} (depth : Nat)
    {chain : List Link} (call : Call f given chain references)
    (hn : chain.length + depth = n + 1) :
    Yields f given n chain references {} (expandBy f depth chain references) := by
  induction depth generalizing chain references with
  | zero =>
    rw [expandBy]
    cases references with
    | nil => exact ⟨[], .nil, rfl⟩
    | cons reference references => exact .inr ⟨rfl, chain, _, call, by omega⟩
  | succ depth ih =>
    rw [expandBy]
    refine foldlM_visit_yields call (fun link pending call' => ?_) (fun _ mem => mem) {}
    exact ih call' (by rw [List.length_append, List.length_singleton]; omega)

/-! ## The merge law -/

/-- **What the rules of references and some rules after them have to be**: the one flat list of the
references and then those rules, folded into a set, so that each id has the place of its first and
the value of its last occurrence; or else the fault of the first step that fails.  Only inside of
these references there may be more configs in progress at once than a number says. -/
def Merges (f : Text → Except Fault Value) (n : Nat) (references : List Value)
    (own : List (Value × Value)) : Except Fault Ruleset → Prop
  | .ok rules => ∃ flat, (∀ l, Flat f references l ↔ l = flat) ∧
      rules = .ofList (flat ++ own) ∧ rules.entries = Ruleset.merged (flat ++ own)
  | .error fault => (∀ outcome, Expands f [] references outcome ↔ outcome = .error fault) ∨
      (fault = .tooDeep ∧ Overruns f references n)

theorem Yields.merges {n : Nat} {references : List Value} {outcome : Except Fault Ruleset}
    (h : Yields f references n [] references {} outcome) (own : List (Value × Value)) :
    Merges f n references own (outcome.map (·.insertAll own)) := by
  cases outcome with
  | ok rules =>
    obtain ⟨flat, hexpands, rfl⟩ := h
    have hflat := hexpands.flat
    have hfold : (({} : Ruleset).insertAll flat).insertAll own = .ofList (flat ++ own) :=
      (Ruleset.insertAll_append _ flat own).symm
    refine ⟨flat, fun l => ⟨fun hl => hl.unique hflat, fun hl => hl ▸ hflat⟩, hfold, ?_⟩
    exact (congrArg Ruleset.entries hfold).trans (Ruleset.entries_ofList _)
  | error fault =>
    refine h.imp_left fun hfirst outcome => ⟨fun h' => h'.unique hfirst, ?_⟩
    rintro rfl
    exact hfirst

/-- **What a run finds for references**: the fold of their flat list, or the fault of the first step
that fails. -/
theorem rulesOf_yields {session : Session σ} (h : Session.Faithful loader f session)
    (references : List Value) :
    Yields f references (configBound loader session) [] references {}
      ((rulesOf loader references).runIn session).1 := by
  have hrun : ((rulesOf loader references).runIn session).1
      = expandBy f (configBound loader session + 1) [] references := by
    rw [rulesOf, Resolving.runIn_bind, Resolving.runIn_get]
    obtain ⟨session', hrun, _⟩ := follows_expand _ [] references session h
    exact congrArg Prod.fst hrun
  rw [hrun]
  exact expandBy_yields _ .start (Nat.zero_add _)

/-- **The merge law.**  Where modules are served by a function, in a session that remembers nothing
else: an `extends` entry without references is a fault of its own; the rules of the references of
any other entry are the fold of their flat list; and the effective rules of a configuration are the
fold of the flat list of its parents, followed by its own rules. -/
theorem merge_law {session : Session σ} (h : Session.Faithful loader f session) :
    (∀ entry,
      match Document.references entry, ((rulesOfEntry loader entry).runIn session).1 with
      | .error cause, outcome => outcome = .error (.document cause)
      | .ok references, outcome => Merges f (configBound loader session) references [] outcome) ∧
    ∀ document : Document,
      Merges f (configBound loader session) document.parents document.rules.entries
        ((effectiveRules loader document).runIn session).1 := by
  have hyields := rulesOf_yields h
  constructor
  · intro entry
    cases hr : Document.references entry with
    | error cause => simp [rulesOfEntry, hr]
    | ok references =>
      have hm := (hyields references).merges []
      simp only [rulesOfEntry, hr]
      cases ho : ((rulesOf loader references).runIn session).1 <;> rw [ho] at hm <;> exact hm
  · intro document
    have hm := (hyields document.parents).merges document.rules.entries
    rw [effectiveRules, Resolving.runIn_bind]
    rcases hrun : (rulesOf loader document.parents).runIn session with ⟨fault | rules, session'⟩
    · rw [hrun] at hm
      exact hm
    · rw [hrun] at hm
      exact hm

/-- Where the built-in package is all there is, its config `all` has the rules of `recommended`. -/
theorem merge_law_builtin :
    Session.Faithful (Loader.ofFunction (fun _ => .ok Builtin.manifest) Builtin.configCount)
        (fun _ => .ok Builtin.manifest) (Session.start ()) ∧
      ∃ rules, ((rulesOfEntry
        (Loader.ofFunction (fun _ => .ok Builtin.manifest) Builtin.configCount)
          (.str "bpmnlint:all")).runIn (Session.start ())).1 = .ok rules ∧
        rules.size = Builtin.rules.length ∧
        Merges (fun _ => .ok Builtin.manifest) Builtin.configCount [.str "bpmnlint:all"] []
          (.ok rules) := by
  have faithful := Session.Faithful.start
    (Loader.answers_ofFunction (fun _ => .ok Builtin.manifest) Builtin.configCount ())
  refine ⟨faithful, _, rfl, ?_, ?_⟩
  · decide +kernel
  · exact (merge_law faithful).1 (.str "bpmnlint:all")

end LintBundle.Extends
