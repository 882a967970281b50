import LintBundle.Session

/-!
# Proofs/Resolving — what a step of a run yields, and when a session does not show

A loader that answers by a function makes the session a memo: a step then does what a plain
computation on the answers says (`Follows`), whatever was asked before.  Steps are put together by
binding and folding, and so are the computations they follow; the loader, the manifests and the
named configs are the leaves.
-/

namespace LintBundle

variable {σ α β : Type}

/-! ## Running a step -/

namespace Resolving

/-- What a step yields in a session, and the session it leaves. -/
def runIn (x : Resolving σ α) (session : Session σ) : Except Fault α × Session σ := x session

@[simp] theorem runIn_pure (a : α) (session : Session σ) :
    runIn (pure a) session = (.ok a, session) := rfl

@[simp] theorem runIn_throw (fault : Fault) (session : Session σ) :
    runIn (throw fault : Resolving σ α) session = (.error fault, session) := rfl

@[simp] theorem runIn_get (session : Session σ) :
    runIn (get : Resolving σ (Session σ)) session = (.ok session, session) := rfl

@[simp] theorem runIn_modify (change : Session σ → Session σ) (session : Session σ) :
    runIn (modify change : Resolving σ PUnit) session = (.ok ⟨⟩, change session) := rfl

@[simp] theorem runIn_ofExcept (y : Except Fault α) (session : Session σ) :
    runIn (MonadExcept.ofExcept y) session = (y, session) := by
  cases y <;> rfl

@[simp] theorem runIn_bind (x : Resolving σ α) (g : α → Resolving σ β) (session : Session σ) :
    runIn (x >>= g) session =
      match runIn x session with
      | (.ok a, session') => runIn (g a) session'
      | (.error fault, session') => (.error fault, session') := by
  change (x >>= g) session = _
  simp only [bind, ExceptT.bind, ExceptT.mk, StateT.bind, runIn, ExceptT.bindCont]
  cases x session with
  | mk r s => cases r <;> rfl

@[simp] theorem runIn_tryCatch (x : Resolving σ α) (handler : Fault → Resolving σ α)
    (session : Session σ) :
    runIn (tryCatch x handler) session =
      match runIn x session with
      | (.ok a, session') => (.ok a, session')
      | (.error fault, session') => runIn (handler fault) session' := by
  change (ExceptT.tryCatch x handler) session = _
  simp only [ExceptT.tryCatch, ExceptT.mk, runIn, bind, StateT.bind]
  cases x session with
  | mk r s => cases r <;> rfl

@[simp] theorem runIn_map (g : α → β) (x : Resolving σ α) (session : Session σ) :
    runIn (g <$> x) session =
      match runIn x session with
      | (.ok a, session') => (.ok (g a), session')
      | (.error fault, session') => (.error fault, session') := by
  rw [← bind_pure_comp, runIn_bind]
  rfl

/-- What a step yields, changed. -/
theorem outcome_bind_pure (x : Resolving σ α) (g : α → β) (session : Session σ) :
    (runIn (x >>= fun a => pure (g a)) session).1 = (runIn x session).1.map g := by
  rw [bind_pure_comp, runIn_map]
  rcases runIn x session with ⟨fault | a, session'⟩ <;> rfl

/-- **A run of two steps that succeeds** is a run of the first and then of the second. -/
theorem runIn_bind_eq_ok {x : Resolving σ α} {g : α → Resolving σ β} {session session' : Session σ}
    {b : β} (h : runIn (x >>= g) session = (.ok b, session')) :
    ∃ a session₁, runIn x session = (.ok a, session₁) ∧
      runIn (g a) session₁ = (.ok b, session') := by
  rw [runIn_bind] at h
  rcases hx : runIn x session with ⟨fault | a, session₁⟩
  · simp [hx] at h
  · exact ⟨a, session₁, rfl, by simpa [hx] using h⟩

/-- A step that can be seen to succeed, with what can be seen of its result. -/
theorem runIn_of_any {x : Resolving σ α} {session : Session σ} {p : α → Bool}
    (h : (runIn x session).1.toOption.any p = true) :
    ∃ a session', runIn x session = (.ok a, session') ∧ p a = true := by
  rcases hx : runIn x session with ⟨fault | a, session'⟩ <;> rw [hx] at h
  · cases h
  · exact ⟨a, session', rfl, h⟩

end Resolving

/-! ## Loaders whose answers do not change -/

namespace Loader

/-- The world after some modules were asked for. -/
def worldAfter (loader : Loader σ) (world : σ) (requests : List Text) : σ :=
  requests.foldl (fun w specifier => (loader.load specifier w).2) world

/-- **A loader that answers by a function**, whatever it was asked before. -/
def Answers (loader : Loader σ) (f : Text → Except Fault Value) (world : σ) : Prop :=
  ∀ requests specifier, (loader.load specifier (loader.worldAfter world requests)).1 = f specifier

variable {loader : Loader σ} {f : Text → Except Fault Value} {world : σ}

theorem Answers.load (h : loader.Answers f world) (specifier : Text) :
    (loader.load specifier world).1 = f specifier := h [] specifier

theorem Answers.next (h : loader.Answers f world) (specifier : Text) :
    loader.Answers f (loader.load specifier world).2 :=
  fun requests => h (specifier :: requests)

theorem answers_ofFunction (f : Text → Except Fault Value) (bound : Nat) (world : σ) :
    (ofFunction f bound : Loader σ).Answers f world := fun _ _ => rfl

end Loader

/-! ## Sessions that remember what was answered -/

/-- The manifest of a specifier, as a function serves it. -/
def Session.manifestBy (f : Text → Except Fault Value) (specifier : Text) :
    Except Fault Manifest :=
  (f specifier).map Manifest.ofValue

/-- **A session that remembers nothing but what a function answers.** -/
structure Session.Faithful (loader : Loader σ) (f : Text → Except Fault Value)
    (session : Session σ) : Prop where
  answers : loader.Answers f session.world
  manifests : ∀ e ∈ session.manifests, Session.manifestBy f e.1 = .ok e.2

/-! ## Steps that keep an invariant -/

namespace Resolving

/-- A step that keeps what is known about the session, whether it succeeds or fails. -/
def Keeps (I : Session σ → Prop) (x : Resolving σ α) : Prop :=
  ∀ session, I session → I (x.runIn session).2

/-- A step that keeps what is known about the session, and does what a plain computation says. -/
def Computes (I : Session σ → Prop) (x : Resolving σ α) (y : Except Fault α) : Prop :=
  ∀ session, I session → ∃ session', x.runIn session = (y, session') ∧ I session'

variable {I : Session σ → Prop}

namespace Keeps

theorem pure (a : α) : Keeps I (pure a : Resolving σ α) := fun _ h => h

theorem throw (fault : Fault) : Keeps I (throw fault : Resolving σ α) := fun _ h => h

theorem get : Keeps I (get : Resolving σ (Session σ)) := fun _ h => h

theorem ofExcept (y : Except Fault α) : Keeps I (MonadExcept.ofExcept y : Resolving σ α) := by
  intro session h
  rwa [runIn_ofExcept]

/-- A step that changes the session keeps what the change keeps. -/
theorem modify {change : Session σ → Session σ} (h : ∀ session, I session → I (change session)) :
    Keeps I (modify change : Resolving σ PUnit) := h

/-- What follows a computation has to keep what is known for the result of that alone. -/
theorem bind_ofExcept {y : Except Fault α} {g : α → Resolving σ β}
    (hg : ∀ a, y = .ok a → Keeps I (g a)) : Keeps I (MonadExcept.ofExcept y >>= g) := by
  intro session h
  rw [runIn_bind, runIn_ofExcept]
  cases y with
  | error fault => exact h
  | ok a => exact hg a rfl session h

theorem bind {x : Resolving σ α} {g : α → Resolving σ β} (hx : Keeps I x)
    (hg : ∀ a, Keeps I (g a)) :
    Keeps I (x >>= g) := by
  intro session h
  have h₁ := hx session h
  rw [runIn_bind]
  rcases hrun : x.runIn session with ⟨fault | a, session₁⟩ <;> rw [hrun] at h₁
  · exact h₁
  · exact hg a session₁ h₁

theorem tryCatch {x : Resolving σ α} {handler : Fault → Resolving σ α} (hx : Keeps I x)
    (hh : ∀ fault, Keeps I (handler fault)) : Keeps I (tryCatch x handler) := by
  intro session h
  have h₁ := hx session h
  rw [runIn_tryCatch]
  rcases hrun : x.runIn session with ⟨fault | a, session₁⟩ <;> rw [hrun] at h₁
  · exact hh fault session₁ h₁
  · exact h₁

theorem ite {c : Prop} [Decidable c] {x x' : Resolving σ α} (hx : Keeps I x) (hx' : Keeps I x') :
    Keeps I (if c then x else x') := by
  split
  · exact hx
  · exact hx'

/-- A loop keeps what its steps keep. -/
theorem foldlM {g : β → α → Resolving σ β} (h : ∀ b a, Keeps I (g b a)) (b : β) (l : List α) :
    Keeps I (l.foldlM g b) := by
  induction l generalizing b with
  | nil => exact pure b
  | cons a l ih =>
    rw [List.foldlM_cons]
    exact bind (h b a) ih

end Keeps

namespace Computes

theorem keeps {x : Resolving σ α} {y : Except Fault α} (h : Computes I x y) : Keeps I x := by
  intro session hs
  obtain ⟨session', hrun, hs'⟩ := h session hs
  rwa [hrun]

theorem outcome {x : Resolving σ α} {y : Except Fault α} (h : Computes I x y) {session : Session σ}
    (hs : I session) : (x.runIn session).1 = y := by
  obtain ⟨session', hrun, -⟩ := h session hs
  rw [hrun]

theorem pure (a : α) : Computes I (pure a) (.ok a) :=
  fun session h => ⟨session, rfl, h⟩

theorem throw (fault : Fault) : Computes I (throw fault : Resolving σ α) (.error fault) :=
  fun session h => ⟨session, rfl, h⟩

theorem ofExcept (y : Except Fault α) : Computes I (MonadExcept.ofExcept y) y :=
  fun session h => ⟨session, runIn_ofExcept y session, h⟩

/-- What follows a step has to compute what it should for the result of that step alone. -/
theorem bind_of_ok {x : Resolving σ α} {y : Except Fault α} {g : α → Resolving σ β}
    {k : α → Except Fault β} (hx : Computes I x y) (hg : ∀ a, y = .ok a → Computes I (g a) (k a)) :
    Computes I (x >>= g) (y >>= k) := by
  intro session h
  obtain ⟨session₁, h₁, hf₁⟩ := hx session h
  cases y with
  | error fault => exact ⟨session₁, by rw [runIn_bind, h₁]; rfl, hf₁⟩
  | ok a =>
    obtain ⟨session₂, h₂, hf₂⟩ := hg a rfl session₁ hf₁
    exact ⟨session₂, by rw [runIn_bind, h₁]; exact h₂, hf₂⟩

theorem bind {x : Resolving σ α} {y : Except Fault α} {g : α → Resolving σ β}
    {k : α → Except Fault β} (hx : Computes I x y) (hg : ∀ a, Computes I (g a) (k a)) :
    Computes I (x >>= g) (y >>= k) :=
  bind_of_ok hx fun a _ => hg a

theorem ite {c : Prop} [Decidable c] {x x' : Resolving σ α} {y y' : Except Fault α}
    (hx : Computes I x y) (hx' : Computes I x' y') :
    Computes I (if c then x else x') (if c then y else y') := by
  split
  · exact hx
  · exact hx'

/-- A loop computes the loop over what its steps compute. -/
theorem foldlM_of_mem {g : β → α → Resolving σ β} {k : β → α → Except Fault β} {l : List α}
    (h : ∀ b, ∀ a ∈ l, Computes I (g b a) (k b a)) (b : β) :
    Computes I (l.foldlM g b) (l.foldlM k b) := by
  induction l generalizing b with
  | nil => exact pure b
  | cons a l ih =>
    rw [List.foldlM_cons, List.foldlM_cons]
    refine bind (h b a (List.mem_cons_self ..)) (ih fun b a' ha' => ?_)
    exact h b a' (List.mem_cons_of_mem _ ha')

theorem foldlM {g : β → α → Resolving σ β} {k : β → α → Except Fault β}
    (h : ∀ b a, Computes I (g b a) (k b a)) (b : β) (l : List α) :
    Computes I (l.foldlM g b) (l.foldlM k b) :=
  foldlM_of_mem (fun b a _ => h b a) b

end Computes

/-- Loops do the same if their steps do, as long as what is known about the session is kept. -/
theorem runIn_foldlM_congr {g g' : β → α → Resolving σ β} (keeps : ∀ b a, Keeps I (g b a))
    {l : List α} (h : ∀ b, ∀ a ∈ l, ∀ session, I session →
      (g b a).runIn session = (g' b a).runIn session)
    (b : β) {session : Session σ} (hs : I session) :
    runIn (l.foldlM g b) session = runIn (l.foldlM g' b) session := by
  induction l generalizing b session with
  | nil => rfl
  | cons a l ih =>
    have hrest : ∀ b, ∀ a ∈ l, ∀ session, I session →
        (g b a).runIn session = (g' b a).runIn session :=
      fun b a' ha' => h b a' (List.mem_cons_of_mem a ha')
    have hkeeps := keeps b a session hs
    rw [List.foldlM_cons, List.foldlM_cons, runIn_bind, runIn_bind,
      ← h b a (List.mem_cons_self ..) session hs]
    rcases hrun : (g b a).runIn session with ⟨fault | b', session₁⟩
    · rfl
    · rw [hrun] at hkeeps
      exact ih hrest b' hkeeps

end Resolving

/-- A step that does what a plain computation says, and leaves a faithful session faithful. -/
def Resolving.Follows (loader : Loader σ) (f : Text → Except Fault Value) (x : Resolving σ α)
    (y : Except Fault α) : Prop :=
  ∀ session, Session.Faithful loader f session →
    ∃ session', x.runIn session = (y, session') ∧ Session.Faithful loader f session'

variable {loader : Loader σ} {f : Text → Except Fault Value}

namespace Resolving.Follows

theorem pure (a : α) : Follows loader f (pure a) (.ok a) := Computes.pure a

theorem throw (fault : Fault) : Follows loader f (throw fault : Resolving σ α) (.error fault) :=
  Computes.throw fault

theorem ofExcept (y : Except Fault α) : Follows loader f (MonadExcept.ofExcept y) y :=
  Computes.ofExcept y

theorem bind {x : Resolving σ α} {y : Except Fault α} {g : α → Resolving σ β}
    {k : α → Except Fault β} (hx : Follows loader f x y) (hg : ∀ a, Follows loader f (g a) (k a)) :
    Follows loader f (x >>= g) (y >>= k) :=
  Computes.bind hx hg

theorem ite {c : Prop} [Decidable c] {x x' : Resolving σ α} {y y' : Except Fault α}
    (hx : Follows loader f x y) (hx' : Follows loader f x' y') :
    Follows loader f (if c then x else x') (if c then y else y') :=
  Computes.ite hx hx'

/-- A loop follows the loop over what its steps follow. -/
theorem foldlM {g : β → α → Resolving σ β} {k : β → α → Except Fault β}
    (h : ∀ b a, Follows loader f (g b a) (k b a)) (b : β) (l : List α) :
    Follows loader f (l.foldlM g b) (l.foldlM k b) :=
  Computes.foldlM h b l

end Resolving.Follows

namespace Session

open Resolving (Follows)

/-- A run that begins in an unchanging world remembers nothing yet. -/
theorem Faithful.start {world : σ} (h : loader.Answers f world) :
    Faithful loader f (Session.start world) where
  answers := h
  manifests := by simp [Session.start]

theorem Faithful.known {session : Session σ} (h : Faithful loader f session) {specifier : Text}
    {m : Manifest} (hm : session.known? specifier = some m) : manifestBy f specifier = .ok m := by
  obtain ⟨e, he, rfl⟩ := Option.map_eq_some_iff.1 hm
  have hs : e.1 = specifier := by simpa using List.find?_some he
  exact hs ▸ h.manifests e (List.mem_of_find?_eq_some he)

/-- Asking the loader changes the world alone. -/
@[simp] theorem runIn_require (specifier : Text) (session : Session σ) :
    (require loader specifier).runIn session
      = ((loader.load specifier session.world).1,
          { session with world := (loader.load specifier session.world).2 }) := by
  rw [require, Resolving.runIn_bind, Resolving.runIn_get]
  exact Resolving.runIn_ofExcept _ _

theorem follows_require (specifier : Text) :
    Follows loader f (Session.require loader specifier) (f specifier) := by
  intro session h
  refine ⟨{ session with world := (loader.load specifier session.world).2 }, ?_,
    h.answers.next specifier, h.manifests⟩
  rw [runIn_require, h.answers.load specifier]

/-! ## What a look-up does -/

section LookUp

variable {session : Session σ} {plugin : PluginRef} {world : σ}

/-- A manifest that is remembered is not asked for. -/
theorem manifest_known {m : Manifest} (h : session.known? (specifier plugin) = some m) :
    (manifest loader plugin).runIn session = (.ok m, session) := by
  simp [manifest, h]

/-- A plugin that cannot be loaded is not remembered. -/
theorem manifest_failed {fault : Fault} (h : session.known? (specifier plugin) = none)
    (hload : loader.load (specifier plugin) session.world = (.error fault, world)) :
    (manifest loader plugin).runIn session = (.error fault, { session with world := world }) := by
  simp [manifest, h, hload]

/-- A manifest that is loaded is remembered. -/
theorem manifest_loaded {v : Value} (h : session.known? (specifier plugin) = none)
    (hload : loader.load (specifier plugin) session.world = (.ok v, world)) :
    (manifest loader plugin).runIn session = (.ok (Manifest.ofValue v),
      { session with
        world := world
        manifests := (specifier plugin, Manifest.ofValue v) :: session.manifests }) := by
  simp [manifest, h, hload]

/-- Only the local plugin has a package that has to be looked up. -/
theorem packageName_of_not_isLocal (h : plugin.isLocal = false) :
    (packageName loader plugin).runIn session = (.ok plugin.packageName, session) := by
  simp [packageName, h]

/-- A package name that is remembered is not asked for. -/
theorem packageName_known {name : Text} (hl : plugin.isLocal = true)
    (h : session.localPackage = some name) :
    (packageName loader plugin).runIn session = (.ok name, session) := by
  simp [packageName, hl, h]

/-- A package file that declares no name, or that cannot be loaded, is not remembered. -/
theorem packageName_failed {answer : Except Fault Value} {fault : Fault}
    (hl : plugin.isLocal = true) (h : session.localPackage = none)
    (hload : loader.load packageFile session.world = (answer, world))
    (hname : answer >>= declaredName = .error fault) :
    (packageName loader plugin).runIn session
      = (.error fault, { session with world := world }) := by
  cases answer with
  | error fault' =>
    obtain rfl := Except.error.inj hname
    simp [packageName, hl, h, hload]
  | ok v =>
    have hdeclared : declaredName v = .error fault := hname
    simp [packageName, hl, h, hload, hdeclared]

/-- A package name that is declared is remembered. -/
theorem packageName_declared {answer : Except Fault Value} {name : Text}
    (hl : plugin.isLocal = true) (h : session.localPackage = none)
    (hload : loader.load packageFile session.world = (answer, world))
    (hname : answer >>= declaredName = .ok name) :
    (packageName loader plugin).runIn session
      = (.ok name, { session with world := world, localPackage := some name }) := by
  cases answer with
  | error fault => cases hname
  | ok v =>
    have hdeclared : declaredName v = .ok name := hname
    simp [packageName, hl, h, hload, hdeclared]

/-- **A target that is found** lies in the package of the plugin that its id names. -/
theorem ruleTarget_eq_ok {id : Value} {target : RuleTarget} {session' : Session σ}
    (h : (ruleTarget loader id).runIn session = (.ok target, session')) :
    ∃ rule package session₁ path, Naming.rule id = .ok rule ∧
      (packageName loader rule.plugin).runIn session = (.ok package, session₁) ∧
      target =
        { importPath := (if rule.plugin.isLocal then "." else package : Text) ++ "/" ++ path
          canonicalId := package ++ "/" ++ rule.name } := by
  obtain ⟨rule, _, hrule, h⟩ := Resolving.runIn_bind_eq_ok h
  rw [Resolving.runIn_ofExcept] at hrule
  obtain ⟨hnamed, rfl⟩ := Prod.mk.inj hrule
  obtain ⟨package, session₁, hpackage, h⟩ := Resolving.runIn_bind_eq_ok h
  obtain ⟨found, _, -, h⟩ := Resolving.runIn_bind_eq_ok h
  obtain ⟨path, _, -, h⟩ := Resolving.runIn_bind_eq_ok h
  rw [Resolving.runIn_pure] at h
  have htarget := Except.ok.inj (congrArg Prod.fst h)
  exact ⟨rule, package, session₁, path, hnamed, hpackage, htarget.symm⟩

/-- The id of a target is a rule's name behind the name of a package, which is that of the rule's
plugin unless it is the local one. -/
theorem ruleTarget_ok {id : Value} {target : RuleTarget} {session' : Session σ}
    (h : (ruleTarget loader id).runIn session = (.ok target, session')) :
    ∃ rule package, Naming.rule id = .ok rule ∧
      target.canonicalId = package ++ "/" ++ rule.name ∧
      (rule.plugin.isLocal = false → package = rule.plugin.packageName) := by
  obtain ⟨rule, package, session₁, path, hrule, hpackage, rfl⟩ := ruleTarget_eq_ok h
  refine ⟨rule, package, hrule, rfl, fun hl => ?_⟩
  rw [packageName_of_not_isLocal hl] at hpackage
  exact (Except.ok.inj (congrArg Prod.fst hpackage)).symm

end LookUp

/-- **A manifest is what the loader's function says**, remembered or not. -/
theorem follows_manifest (plugin : PluginRef) :
    Follows loader f (Session.manifest loader plugin) (manifestBy f (specifier plugin)) := by
  intro session h
  rw [Session.manifest, Resolving.runIn_bind, Resolving.runIn_get]
  cases hk : session.known? (specifier plugin) with
  | some known => exact ⟨session, by simp [hk, h.known hk], h⟩
  | none =>
    obtain ⟨session₁, h₁, hf₁⟩ := follows_require (specifier plugin) session h
    simp only [hk, Resolving.runIn_bind, h₁, manifestBy]
    cases hv : f (specifier plugin) with
    | error fault => exact ⟨session₁, rfl, hf₁⟩
    | ok v =>
      refine ⟨_, rfl, hf₁.answers, ?_⟩
      intro e he
      rcases List.mem_cons.1 he with rfl | he
      · rw [manifestBy, hv]; rfl
      · exact hf₁.manifests e he

/-- **A named config is what the loader's function says**, remembered or not. -/
theorem follows_config (plugin : PluginRef) (name : Text) :
    Follows loader f (Session.config loader plugin name)
      (do namedConfig (← manifestBy f (specifier plugin)) (specifier plugin) name) :=
  Follows.bind (follows_manifest plugin) fun found =>
    Follows.ofExcept (namedConfig found (specifier plugin) name)

end Session

end LintBundle
