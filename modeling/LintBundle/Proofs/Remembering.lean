import LintBundle.Proofs.Tables
import LintBundle.Proofs.Targets

/-!
# Proofs/Remembering — what a session remembers does not show, and is not asked for again

    start ──op──▸ session ──op──▸ … ──op──▸ session ──op──▸ outcome

All that operations do to a session they do by loading a manifest or reading the name of the package
being compiled, so an invariant of these two is one of all operations (`Operation.keeps`) and of any
number of them (`keeps_after`).  Two invariants make the law: where the loader's answers do not
change, a session stays consistent with them, and an operation comes to what it would come to at
the start; and whatever the loader answers, a session holds all that was settled by the requests
made so far (`Traced`).
-/

namespace LintBundle

open Resolving (Computes Keeps)

variable {σ : Type} {loader : Loader σ}

/-- **A plugin that is addressed**: that of a rule id, or of a reference to a config. -/
inductive Naming.Addressed : PluginRef → Prop
  | rule {id : Value} {found : RuleName} (h : Naming.rule id = .ok found) : Addressed found.plugin
  | config {reference : Value} {found : ConfigRef} (h : Naming.config reference = .ok found) :
      Addressed found.plugin

/-! ## Operations -/

/-- What a session can be asked. -/
inductive Operation
  | packageName (plugin : PluginRef)
  | manifest (plugin : PluginRef)
  | config (plugin : PluginRef) (name : Text)
  | ruleTarget (id : Value)
  | inheritedRules (entry : Value)
  | effectiveRules (document : Document)
  | bundle (rules : Ruleset)

namespace Operation

/-- What an operation yields. -/
def Result : Operation → Type
  | packageName _ => Text
  | manifest _ => Manifest
  | config _ _ => Document
  | ruleTarget _ => RuleTarget
  | inheritedRules _ => Ruleset
  | effectiveRules _ => Ruleset
  | bundle _ => Bundle

/-- An operation as a step of a run. -/
def run (loader : Loader σ) : (op : Operation) → Resolving σ op.Result
  | packageName plugin => Session.packageName loader plugin
  | manifest plugin => Session.manifest loader plugin
  | config plugin name => Session.config loader plugin name
  | ruleTarget id => Session.ruleTarget loader id
  | inheritedRules entry => Extends.rulesOfEntry loader entry
  | effectiveRules document => Extends.effectiveRules loader document
  | bundle rules => Bundle.ofRules loader rules

/-- The session after some operations, whether they succeed or fail. -/
def after (loader : Loader σ) (ops : List Operation) (session : Session σ) : Session σ :=
  ops.foldl (fun session op => ((op.run loader).runIn session).2) session

@[simp] theorem after_append (ops more : List Operation) (session : Session σ) :
    after loader (ops ++ more) session = after loader more (after loader ops session) :=
  List.foldl_append

/-! ## What look-ups keep, operations keep -/

/-- An operation on what a text addresses: whoever names a plugin has read it off a rule id or a
reference. -/
def IsWritten : Operation → Prop
  | packageName plugin => Naming.Addressed plugin
  | manifest plugin => Naming.Addressed plugin
  | config plugin _ => Naming.Addressed plugin
  | _ => True

section Keeping

variable {I : Session σ → Prop}

section Addressed

variable (hm : ∀ {plugin}, Naming.Addressed plugin → Keeps I (Session.manifest loader plugin))
  (hp : ∀ {plugin}, Naming.Addressed plugin → Keeps I (Session.packageName loader plugin))

include hm

theorem keeps_config {plugin : PluginRef} (h : Naming.Addressed plugin) (name : Text) :
    Keeps I (Session.config loader plugin name) :=
  Keeps.bind (hm h) fun _ => Keeps.ofExcept _

theorem keeps_manifestOrEmpty {plugin : PluginRef} (h : Naming.Addressed plugin) :
    Keeps I (Session.manifestOrEmpty loader plugin) := by
  refine Keeps.tryCatch (hm h) fun fault => ?_
  cases fault with
  | notFound => exact Keeps.pure _
  | _ => exact Keeps.throw _

/-- Following configs keeps what loading manifests keeps. -/
theorem keeps_expand (depth : Nat) (chain : List Link) (references : List Value) :
    Keeps I (Extends.expand loader depth chain references) := by
  induction depth generalizing chain references with
  | zero => exact Keeps.ite (Keeps.pure _) (Keeps.throw _)
  | succ depth ih =>
    rw [Extends.expand]
    refine Keeps.foldlM (fun rules reference => ?_) _ references
    refine Keeps.bind_ofExcept fun found hfound => ?_
    refine Keeps.ite (Keeps.bind (Keeps.throw _) fun _ => ?_) ?_ <;>
    · refine Keeps.bind (keeps_config hm (.config hfound) found.config) fun document => ?_
      exact Keeps.bind (ih _ _) fun inherited => Keeps.ofExcept _

theorem keeps_rulesOf_of_addressed (references : List Value) :
    Keeps I (Extends.rulesOf loader references) :=
  Keeps.bind Keeps.get fun _ => keeps_expand hm _ _ references

include hp

theorem keeps_ruleTarget (id : Value) : Keeps I (Session.ruleTarget loader id) := by
  refine Keeps.bind_ofExcept fun rule hrule => ?_
  refine Keeps.bind (hp (.rule hrule)) fun package => ?_
  refine Keeps.bind (keeps_manifestOrEmpty hm (.rule hrule)) fun found => ?_
  exact Keeps.bind (Keeps.ofExcept _) fun path => Keeps.pure _

theorem keeps_add (b : Bundle) (id value : Value) : Keeps I (b.add loader id value) := by
  refine Keeps.bind (Keeps.ofExcept _) fun normalized => ?_
  refine Keeps.ite (Keeps.pure _) ?_
  exact Keeps.bind (keeps_ruleTarget hm hp id) fun target => Keeps.pure _

/-- **An operation on what a text addresses keeps what look-ups of addressed plugins keep.** -/
theorem keeps_of_isWritten {op : Operation} (h : op.IsWritten) : Keeps I (op.run loader) := by
  cases op with
  | packageName plugin => exact hp h
  | manifest plugin => exact hm h
  | config plugin name => exact keeps_config hm h name
  | ruleTarget id => exact keeps_ruleTarget hm hp id
  | inheritedRules entry =>
    rw [run, Extends.rulesOfEntry]
    split
    · exact keeps_rulesOf_of_addressed hm _
    · exact Keeps.throw _
  | effectiveRules document =>
    exact Keeps.bind (keeps_rulesOf_of_addressed hm document.parents) fun _ => Keeps.pure _
  | bundle rules =>
    rw [run, Bundle.ofRules]
    refine Keeps.foldlM (fun b e => ?_) _ rules.entries
    exact keeps_add hm hp b e.1 e.2

end Addressed

/-- **Any number of operations keep what each of them keeps.** -/
theorem keeps_after_of_forall {ops : List Operation} (hops : ∀ op ∈ ops, Keeps I (op.run loader))
    {session : Session σ} (h : I session) : I (after loader ops session) := by
  induction ops generalizing session with
  | nil => exact h
  | cons op ops ih =>
    obtain ⟨hop, hops⟩ := List.forall_mem_cons.1 hops
    exact ih hops (hop session h)

section Everywhere

variable (hm : ∀ plugin, Keeps I (Session.manifest loader plugin))
  (hp : ∀ plugin, Keeps I (Session.packageName loader plugin))

include hm

theorem keeps_rulesOf (references : List Value) : Keeps I (Extends.rulesOf loader references) :=
  keeps_rulesOf_of_addressed (fun {plugin} _ => hm plugin) references

include hp

/-- **An operation keeps what loading manifests and reading package names keep.** -/
theorem keeps (op : Operation) : Keeps I (op.run loader) := by
  cases op with
  | packageName plugin => exact hp plugin
  | manifest plugin => exact hm plugin
  | config plugin name => exact Keeps.bind (hm plugin) fun _ => Keeps.ofExcept _
  | _ =>
    exact keeps_of_isWritten (fun {plugin} _ => hm plugin) (fun {plugin} _ => hp plugin) trivial

/-- **Any number of operations keeps the invariant.** -/
theorem keeps_after (ops : List Operation) {session : Session σ} (h : I session) :
    I (after loader ops session) :=
  keeps_after_of_forall (fun op _ => keeps hm hp op) h

end Everywhere

end Keeping

/-! ## What is remembered does not show -/

variable {f : Text → Except Fault Value}

/-- Two outcomes are one, unless either was given up because more configs are served than a session
expects. -/
def Agree {α : Type} (f : Text → Except Fault Value) (n n' : Nat)
    (outcome outcome' : Except Fault α) : Prop :=
  outcome = outcome' ∨ (outcome = .error .tooDeep ∧ Extends.ServesMoreThan f n) ∨
    (outcome' = .error .tooDeep ∧ Extends.ServesMoreThan f n')

/-- Operations that follow configs to the configs they extend. -/
def FollowsConfigs : Operation → Prop
  | inheritedRules _ => True
  | effectiveRules _ => True
  | _ => False

end Operation

/-- Two expansions of the same references agree. -/
theorem Extends.Yields.agree {f : Text → Except Fault Value} {n n' : Nat}
    {references : List Value} {rules : Ruleset} {outcome outcome' : Except Fault Ruleset}
    (h : Yields f references n [] references rules outcome)
    (h' : Yields f references n' [] references rules outcome') :
    Operation.Agree f n n' outcome outcome' := by
  cases outcome with
  | ok result =>
    obtain ⟨l, hl, rfl⟩ := h
    cases outcome' with
    | ok result' =>
      obtain ⟨l', hl', rfl⟩ := h'
      obtain rfl := Except.ok.inj (hl.unique hl')
      exact .inl rfl
    | error fault' =>
      rcases h' with hl' | ⟨rfl, hmore⟩
      · cases hl.unique hl'
      · exact .inr (.inr ⟨rfl, hmore.servesMoreThan⟩)
  | error fault =>
    rcases h with hl | ⟨rfl, hmore⟩
    case inr => exact .inr (.inl ⟨rfl, hmore.servesMoreThan⟩)
    cases outcome' with
    | ok result' =>
      obtain ⟨l', hl', rfl⟩ := h'
      cases hl.unique hl'
    | error fault' =>
      rcases h' with hl' | ⟨rfl, hmore⟩
      · exact .inl (congrArg Except.error (Except.error.inj (hl.unique hl')))
      · exact .inr (.inr ⟨rfl, hmore.servesMoreThan⟩)

namespace Operation

/-- Outcomes that agree still do when own rules are inserted. -/
theorem Agree.map {α β : Type} {n n' : Nat} {outcome outcome' : Except Fault α} (g : α → β)
    (h : Agree f n n' outcome outcome') : Agree f n n' (outcome.map g) (outcome'.map g) := by
  rcases h with rfl | ⟨rfl, hmore⟩ | ⟨rfl, hmore⟩
  · exact .inl rfl
  · exact .inr (.inl ⟨rfl, hmore⟩)
  · exact .inr (.inr ⟨rfl, hmore⟩)

/-- Outcomes that agree are one where no more configs are served than is expected. -/
theorem Agree.eq {α : Type} {n n' : Nat} {outcome outcome' : Except Fault α}
    (h : Agree f n n' outcome outcome') (hn : ¬ Extends.ServesMoreThan f n)
    (hn' : ¬ Extends.ServesMoreThan f n') : outcome = outcome' := by
  rcases h with h | ⟨-, hmore⟩ | ⟨-, hmore⟩
  · exact h
  · exact absurd hmore hn
  · exact absurd hmore hn'

/-- An operation that follows no configs computes what the loader answers. -/
theorem exists_computes {op : Operation} (h : ¬ op.FollowsConfigs) :
    ∃ y, Computes (Session.Consistent loader f) (op.run loader) y := by
  cases op with
  | packageName plugin => exact ⟨_, Session.computes_packageName plugin⟩
  | manifest plugin => exact ⟨_, Session.computes_manifest plugin⟩
  | config plugin name => exact ⟨_, Session.computes_config plugin name⟩
  | ruleTarget id => exact ⟨_, Session.computes_ruleTarget id⟩
  | inheritedRules entry => exact absurd trivial h
  | effectiveRules document => exact absurd trivial h
  | bundle rules => exact ⟨_, Bundle.computes_ofRules rules⟩

/-- One that does expands references. -/
theorem agree_of_followsConfigs {session session' : Session σ}
    (h : Session.Consistent loader f session) (h' : Session.Consistent loader f session')
    {op : Operation} (hop : op.FollowsConfigs) :
    Agree f (Extends.configBound loader session) (Extends.configBound loader session')
      ((op.run loader).runIn session).1 ((op.run loader).runIn session').1 := by
  have agree := fun references => (Extends.rulesOf_yields h.toFaithful references).agree
    (Extends.rulesOf_yields h'.toFaithful references)
  cases op with
  | inheritedRules entry =>
    rw [run, Extends.rulesOfEntry]
    split
    · exact agree _
    · exact .inl rfl
  | effectiveRules document =>
    have merged : ∀ session, (((effectiveRules document).run loader).runIn session).1
        = (((Extends.rulesOf loader document.parents).runIn session).1).map
            (·.insertAll document.rules.entries) :=
      fun session => Resolving.outcome_bind_pure _ _ session
    rw [merged, merged]
    exact (agree document.parents).map _
  | _ => cases hop

/-- **Consistent sessions yield the same**, whatever each of them remembers. -/
theorem outcome_agree {session session' : Session σ} (h : Session.Consistent loader f session)
    (h' : Session.Consistent loader f session') (op : Operation) :
    (¬ op.FollowsConfigs → ((op.run loader).runIn session).1 = ((op.run loader).runIn session').1) ∧
      Agree f (Extends.configBound loader session) (Extends.configBound loader session')
        ((op.run loader).runIn session).1 ((op.run loader).runIn session').1 := by
  by_cases hop : op.FollowsConfigs
  · exact ⟨fun hno => absurd hop hno, agree_of_followsConfigs h h' hop⟩
  · obtain ⟨y, hy⟩ : ∃ y, Computes (Session.Consistent loader f) (op.run loader) y :=
      exists_computes hop
    have heq := (hy.outcome h).trans (hy.outcome h').symm
    exact ⟨fun _ => heq, .inl heq⟩

/-- A session expects no fewer configs than a loader serves that counts them. -/
theorem not_servesMoreThan {session : Session σ} (h : Session.Consistent loader f session)
    (counted : Extends.Counted loader session.world) :
    ¬ Extends.ServesMoreThan f (Extends.configBound loader session) := by
  have answer_eq : loader.answer session.world = f := funext h.answers.load
  rw [← answer_eq]
  exact counted.not_servesMoreThan (Extends.bound_le_configBound loader session)

end Operation

/-! ## What was answered is not asked for again -/

/-- Something a loader was asked for, and what it answered. -/
abbrev Request := Text × Except Fault Value

/-- A loader with a log: what it is asked for comes last, with the answer. -/
def Loader.Notes (loader : Loader σ) (log : σ → List Request) : Prop :=
  ∀ specifier world, log (loader.load specifier world).2
    = log world ++ [(specifier, (loader.load specifier world).1)]

namespace Session

/-- **A request that settles what it is about**: that of a package file that declares a name, or
of a plugin that is served. -/
def Settles (request : Request) : Prop :=
  if request.1 = packageFile then ∃ name, request.2 >>= declaredName = .ok name
  else ∃ exported, request.2 = .ok exported

theorem b_mem_packageName (plugin : PluginRef) : .char 'b' ∈ plugin.packageName.toList := by
  rw [PluginRef.packageName]
  split
  · decide
  · have hprefix : .char 'b' ∈ (packagePrefix ++ plugin.name).toList := by
      rw [Text.toList_append]
      exact List.mem_append_left _ (by decide)
    unfold PluginRef.inScope
    split
    · exact hprefix
    · split
      · exact hprefix
      · rw [Text.toList_append]
        exact List.mem_append_right _ hprefix

/-- No plugin is loaded from the package file. -/
theorem specifier_ne_packageFile (plugin : PluginRef) : specifier plugin ≠ packageFile := by
  rw [specifier]
  split
  · decide
  · intro h
    have hb := b_mem_packageName plugin
    rw [h] at hb
    revert hb
    decide

/-- **What a session holds of the requests made so far**, from a world on: all of them are in the
log, none was made after one that settles it, and what was settled is remembered. -/
structure Traced (log : σ → List Request) (origin : σ) (trace : List Request)
    (session : Session σ) : Prop where
  logged : log session.world = log origin ++ trace
  once : trace.Pairwise fun request later => Settles request → later.1 ≠ request.1
  manifests : ∀ specifier exported, (specifier, .ok exported) ∈ trace → specifier ≠ packageFile →
    session.known? specifier = some (Manifest.ofValue exported)
  package : ∀ answer name, (packageFile, answer) ∈ trace → answer >>= declaredName = .ok name →
    session.localPackage = some name

namespace Traced

variable {log : σ → List Request} {origin : σ} {trace : List Request} {session : Session σ}

theorem start (log : σ → List Request) (world : σ) :
    Traced log world [] (Session.start world) where
  logged := by simp [Session.start]
  once := .nil
  manifests := by simp
  package := by simp

/-- What is not remembered was not settled. -/
theorem isOpen_manifest (h : Traced log origin trace session) {plugin : PluginRef}
    (hk : session.known? (specifier plugin) = none) :
    ∀ request ∈ trace, Settles request → specifier plugin ≠ request.1 := by
  rintro ⟨asked, answer⟩ hrequest hsettles rfl
  rw [Settles, if_neg (specifier_ne_packageFile plugin)] at hsettles
  obtain ⟨exported, rfl⟩ := hsettles
  rw [h.manifests _ exported hrequest (specifier_ne_packageFile plugin)] at hk
  cases hk

theorem isOpen_package (h : Traced log origin trace session) (hk : session.localPackage = none) :
    ∀ request ∈ trace, Settles request → packageFile ≠ request.1 := by
  rintro ⟨asked, answer⟩ hrequest hsettles rfl
  rw [Settles, if_pos rfl] at hsettles
  obtain ⟨name, hname⟩ := hsettles
  rw [h.package answer name hrequest hname] at hk
  cases hk

/-- **A request more**, that nothing settled before: the session keeps what it remembers, and
remembers what the request settles. -/
theorem append (h : Traced log origin trace session) {asked : Text} {answer : Except Fault Value}
    {session' : Session σ} (isOpen : ∀ request ∈ trace, Settles request → asked ≠ request.1)
    (logged : log session'.world = log session.world ++ [(asked, answer)])
    (manifests : ∀ specifier m, session.known? specifier = some m →
      session'.known? specifier = some m)
    (package : ∀ name, session.localPackage = some name → session'.localPackage = some name)
    (isManifest : ∀ exported, answer = .ok exported → asked ≠ packageFile →
      session'.known? asked = some (Manifest.ofValue exported))
    (isPackage : ∀ name, asked = packageFile → answer >>= declaredName = .ok name →
      session'.localPackage = some name) :
    Traced log origin (trace ++ [(asked, answer)]) session' where
  logged := by rw [logged, h.logged, List.append_assoc]
  once := by
    refine List.pairwise_append.2 ⟨h.once, List.pairwise_singleton .., ?_⟩
    intro request hrequest later hlater
    obtain rfl := List.mem_singleton.1 hlater
    exact isOpen request hrequest
  manifests := by
    intro specifier exported hmem hne
    rcases List.mem_append.1 hmem with hmem | hmem
    · exact manifests _ _ (h.manifests specifier exported hmem hne)
    · obtain ⟨rfl, rfl⟩ := Prod.mk.inj (List.mem_singleton.1 hmem)
      exact isManifest exported rfl hne
  package := by
    intro answer' name hmem hname
    rcases List.mem_append.1 hmem with hmem | hmem
    · exact package _ (h.package answer' name hmem hname)
    · obtain ⟨rfl, rfl⟩ := Prod.mk.inj (List.mem_singleton.1 hmem)
      exact isPackage name rfl hname

/-- **Loading a manifest** makes a request at most. -/
theorem manifest (notes : loader.Notes log) (h : Traced log origin trace session)
    (plugin : PluginRef) :
    ∃ more, Traced log origin (trace ++ more) ((manifest loader plugin).runIn session).2 := by
  cases hk : session.known? (specifier plugin) with
  | some m =>
    rw [manifest_known hk]
    exact ⟨[], by simpa using h⟩
  | none =>
    have hlog := notes (specifier plugin) session.world
    rcases hload : loader.load (specifier plugin) session.world with ⟨fault | exported, world⟩ <;>
      rw [hload] at hlog
    · rw [manifest_failed hk hload]
      refine ⟨[(specifier plugin, .error fault)], h.append (h.isOpen_manifest hk) hlog
        (fun _ _ => id) (fun _ => id) (fun _ hanswer => by cases hanswer) fun _ hfile => ?_⟩
      exact absurd hfile (specifier_ne_packageFile plugin)
    · rw [manifest_loaded hk hload]
      refine ⟨[(specifier plugin, .ok exported)], h.append (h.isOpen_manifest hk) hlog ?_
        (fun _ => id) ?_ fun _ hfile => absurd hfile (specifier_ne_packageFile plugin)⟩
      · intro asked m hm
        have hne : specifier plugin ≠ asked := by
          rintro rfl
          rw [hm] at hk
          cases hk
        rwa [known?, List.find?_cons_of_neg (by simpa using hne)]
      · rintro exported' hanswer -
        obtain rfl := Except.ok.inj hanswer
        rw [known?, List.find?_cons_of_pos (by simp)]
        rfl

/-- **Reading the name of a package** makes a request at most. -/
theorem packageName (notes : loader.Notes log) (h : Traced log origin trace session)
    (plugin : PluginRef) :
    ∃ more, Traced log origin (trace ++ more) ((packageName loader plugin).runIn session).2 := by
  cases hl : plugin.isLocal with
  | false =>
    rw [packageName_of_not_isLocal hl]
    exact ⟨[], by simpa using h⟩
  | true =>
    cases hk : session.localPackage with
    | some name =>
      rw [packageName_known hl hk]
      exact ⟨[], by simpa using h⟩
    | none =>
      have hlog := notes packageFile session.world
      rcases hload : loader.load packageFile session.world with ⟨answer, world⟩
      rw [hload] at hlog
      have notNamed : ∀ {name'}, session.localPackage = some name' → False := by
        intro name' hname'
        rw [hk] at hname'
        cases hname'
      refine ⟨[(packageFile, answer)], ?_⟩
      cases hname : answer >>= declaredName with
      | error fault =>
        rw [packageName_failed hl hk hload hname]
        refine h.append (h.isOpen_package hk) hlog (fun _ _ => id) (fun _ => id)
          (fun _ _ hne => absurd rfl hne) fun name _ hname' => ?_
        rw [hname] at hname'
        cases hname'
      | ok name =>
        rw [packageName_declared hl hk hload hname]
        refine h.append (h.isOpen_package hk) hlog (fun _ _ => id)
          (fun _ hname' => absurd hname' notNamed) (fun _ _ hne => absurd rfl hne)
          fun name' _ hname' => ?_
        rw [hname] at hname'
        exact congrArg some (Except.ok.inj hname')

end Traced

/-- **A session that remembers what was answered**: since a world, nothing was asked for again once
it was settled; a manifest that was loaded is the one a plugin has, and a name that was declared the
one the package being compiled has, and neither is asked for. -/
structure Remembers (loader : Loader σ) (log : σ → List Request) (origin : σ)
    (trace : List Request) (session : Session σ) : Prop where
  logged : log session.world = log origin ++ trace
  once : trace.Pairwise fun request later => Settles request → later.1 ≠ request.1
  manifests : ∀ plugin exported, (specifier plugin, .ok exported) ∈ trace →
    (manifest loader plugin).runIn session = (.ok (Manifest.ofValue exported), session)
  package : ∀ plugin answer name, plugin.isLocal = true → (packageFile, answer) ∈ trace →
    answer >>= declaredName = .ok name →
      (packageName loader plugin).runIn session = (.ok name, session)

theorem Traced.remembers {log : σ → List Request} {origin : σ} {trace : List Request}
    {session : Session σ} (h : Traced log origin trace session) :
    Remembers loader log origin trace session where
  logged := h.logged
  once := h.once
  manifests := fun plugin exported hmem =>
    manifest_known (h.manifests _ exported hmem (specifier_ne_packageFile plugin))
  package := fun _ answer name hl hmem hname =>
    packageName_known hl (h.package answer name hmem hname)

end Session

namespace Operation

open Session (Traced Remembers)

/-- **Operations make requests at the end of a trace.** -/
theorem traced_after {log : σ → List Request} (notes : loader.Notes log) {origin : σ}
    {trace : List Request} {session : Session σ} (h : Traced log origin trace session)
    (ops : List Operation) :
    ∃ more, Traced log origin (trace ++ more) (after loader ops session) := by
  refine keeps_after (I := fun session => ∃ more, Traced log origin (trace ++ more) session)
    ?_ ?_ ops ⟨[], by simpa using h⟩
  · rintro plugin session ⟨more, h⟩
    obtain ⟨last, h'⟩ := h.manifest notes plugin
    exact ⟨more ++ last, by rwa [← List.append_assoc]⟩
  · rintro plugin session ⟨more, h⟩
    obtain ⟨last, h'⟩ := h.packageName notes plugin
    exact ⟨more ++ last, by rwa [← List.append_assoc]⟩

/-- **The law of memoization.**  What a session remembers does not show: where a loader answers by a
function, an operation comes to the same after any operations, failed ones among them, as in a
session that begins.  Only if it follows configs, and the loader does not count the configs it
serves, may either of the two give up.  And what is remembered is used: whatever a loader answers,
requests are not repeated once they are settled, and what they settled is what a session goes by
from then on. -/
theorem memoization_law (loader : Loader σ) :
    (∀ f world world', loader.Answers f world → loader.Answers f world' → ∀ ops (op : Operation),
      let session := after loader ops (Session.start world)
      let begun := Session.start world'
      ((op.FollowsConfigs →
          Extends.Counted loader session.world ∧ Extends.Counted loader begun.world) →
        ((op.run loader).runIn session).1 = ((op.run loader).runIn begun).1) ∧
      Agree f (Extends.configBound loader session) (Extends.configBound loader begun)
        ((op.run loader).runIn session).1 ((op.run loader).runIn begun).1) ∧
    ∀ log, loader.Notes log → ∀ world ops more, ∃ trace later,
      Remembers loader log world trace (after loader ops (Session.start world)) ∧
        Remembers loader log world (trace ++ later)
          (after loader (ops ++ more) (Session.start world)) := by
  constructor
  · intro f world world' answers answers' ops op session begun
    have consistent : Session.Consistent loader f session :=
      keeps_after (fun plugin => (Session.computes_manifest plugin).keeps)
        (fun plugin => (Session.computes_packageName plugin).keeps) ops
        (Session.Consistent.start answers)
    have consistent' : Session.Consistent loader f begun := Session.Consistent.start answers'
    obtain ⟨hsame, hagree⟩ := outcome_agree consistent consistent' op
    refine ⟨fun counted => ?_, hagree⟩
    by_cases hfollows : op.FollowsConfigs
    · obtain ⟨hcounted, hcounted'⟩ := counted hfollows
      exact hagree.eq (not_servesMoreThan consistent hcounted)
        (not_servesMoreThan consistent' hcounted')
    · exact hsame hfollows
  · intro log notes world ops more
    obtain ⟨trace, htrace⟩ := traced_after notes (Traced.start log world) ops
    obtain ⟨later, hlater⟩ := traced_after notes htrace more
    rw [← after_append] at hlater
    exact ⟨trace, later, htrace.remembers, hlater.remembers⟩

/-- A loader that fails the first time, and answers something else every time after. -/
def flaky : Loader (List Request) where
  load specifier requests :=
    let answer := if requests.isEmpty then .error (.notFound specifier none)
      else .ok (Builtin.record [("rules", Builtin.record [("r", .int requests.length)])])
    (answer, requests ++ [(specifier, answer)])
  bound _ := 0

/-- A table of one plugin, with a config. -/
def onePlugin : Modules where
  entries := [("bpmnlint-plugin-foo", .ok (Builtin.record [("configs", Builtin.record
    [("base", Builtin.record [("rules", Builtin.errors ["r"])])])]))]
  requested := []

/-- A plugin that fails once and is then served is asked for twice and never again; and after an
operation that failed, the rules of a table's config are what they are in a session that begins. -/
theorem memoization_law_flaky :
    (flaky.Notes id ∧ ∃ trace, trace.length = 2 ∧
      Remembers flaky id [] trace (after flaky
        ([.manifest ⟨"foo", none⟩, .manifest ⟨"foo", none⟩] ++
          [.bundle (.ofList [(.str "foo/s", .str "error")])]) (Session.start []))) ∧
    Loader.modules.Answers (Loader.modules.answer onePlugin) onePlugin ∧
      (((inheritedRules (.str "plugin:foo/base")).run .modules).runIn
        (after .modules [.manifest ⟨"missing", none⟩] (Session.start onePlugin))).1
        = (((inheritedRules (.str "plugin:foo/base")).run .modules).runIn
          (Session.start onePlugin)).1 := by
  have notes : flaky.Notes id := fun _ _ => rfl
  constructor
  · obtain ⟨trace, later, -, hthen⟩ := (memoization_law flaky).2 id notes []
      [.manifest ⟨"foo", none⟩, .manifest ⟨"foo", none⟩]
      [.bundle (.ofList [(.str "foo/s", .str "error")])]
    refine ⟨notes, trace ++ later, ?_, hthen⟩
    have hlength := congrArg List.length hthen.logged
    exact hlength.symm.trans (by decide +kernel)
  · have answers := Loader.OfTable.modules.settled onePlugin
    refine ⟨answers, ((memoization_law _).1 _ onePlugin onePlugin answers answers
      [.manifest ⟨"missing", none⟩] (inheritedRules (.str "plugin:foo/base"))).1 fun _ => ?_⟩
    exact ⟨Extends.counted_ofTable .modules _, Extends.counted_ofTable .modules _⟩

end Operation

end LintBundle
