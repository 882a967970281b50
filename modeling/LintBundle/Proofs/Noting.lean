import LintBundle.Proofs.Resolving
import LintBundle.Bundle

/-!
# Proofs/Noting — what a run asks a loader for, one specifier after the other

    loader.noted : world × log        a run of it is the run of the loader, and the log of it

A loader need not say what it was asked for.  With a log beside its world it does (`Loader.noted`),
and the log does not show: a step that asks the noted loader yields what the step that asks the
loader yields, and leaves the same session (`Shadows`).  So the log of a bundle that is made from a
noted loader is the list of the requests that are made for the bundle (`Bundle.requests`).
-/

namespace LintBundle

variable {σ α β : Type} {loader : Loader σ}

/-! ## Loaders with a log -/

/-- A loader that notes what it is asked for, in order. -/
def Loader.noted (loader : Loader σ) : Loader (σ × List Text) where
  load specifier world :=
    let (answer, next) := loader.load specifier world.1
    (answer, next, world.2 ++ [specifier])
  bound world := loader.bound world.1

/-- A session with a log. -/
def Session.noted (session : Session σ) (log : List Text) : Session (σ × List Text) where
  manifests := session.manifests
  localPackage := session.localPackage
  world := (session.world, log)

namespace Resolving

/-- **A step that does what another does**, and notes what is asked for. -/
def Shadows (x : Resolving (σ × List Text) α) (y : Resolving σ α) : Prop :=
  ∀ session log, ∃ asked,
    x.runIn (session.noted log) = ((y.runIn session).1, (y.runIn session).2.noted (log ++ asked))

namespace Shadows

/-- Steps that ask for nothing and leave the session as it is. -/
theorem of_quiet {x : Resolving (σ × List Text) α} {y : Resolving σ α}
    (r : Session σ → Except Fault α) (hx : ∀ session log, x.runIn (session.noted log) =
      (r session, session.noted log)) (hy : ∀ session, y.runIn session = (r session, session)) :
    Shadows x y := by
  intro session log
  exact ⟨[], by rw [hx, hy, List.append_nil]⟩

theorem pure (a : α) : Shadows (pure a : Resolving (σ × List Text) α) (pure a) :=
  of_quiet (fun _ => .ok a) (fun _ _ => rfl) fun _ => rfl

theorem throw (fault : Fault) :
    Shadows (throw fault : Resolving (σ × List Text) α) (throw fault) :=
  of_quiet (fun _ => .error fault) (fun _ _ => rfl) fun _ => rfl

theorem ofExcept (outcome : Except Fault α) :
    Shadows (MonadExcept.ofExcept outcome : Resolving (σ × List Text) α)
      (MonadExcept.ofExcept outcome) :=
  of_quiet (fun _ => outcome) (fun _ _ => runIn_ofExcept _ _) fun _ => runIn_ofExcept _ _

theorem bind {x : Resolving (σ × List Text) α} {y : Resolving σ α}
    {g : α → Resolving (σ × List Text) β} {k : α → Resolving σ β} (hx : Shadows x y)
    (hg : ∀ a, Shadows (g a) (k a)) : Shadows (x >>= g) (y >>= k) := by
  intro session log
  obtain ⟨asked, hrun⟩ := hx session log
  rw [runIn_bind, runIn_bind, hrun]
  rcases y.runIn session with ⟨fault | a, session₁⟩
  · exact ⟨asked, rfl⟩
  · obtain ⟨more, hmore⟩ := hg a session₁ (log ++ asked)
    exact ⟨asked ++ more, by rw [← List.append_assoc]; exact hmore⟩

theorem tryCatch {x : Resolving (σ × List Text) α} {y : Resolving σ α}
    {handler : Fault → Resolving (σ × List Text) α} {handler' : Fault → Resolving σ α}
    (hx : Shadows x y) (hh : ∀ fault, Shadows (handler fault) (handler' fault)) :
    Shadows (tryCatch x handler) (tryCatch y handler') := by
  intro session log
  obtain ⟨asked, hrun⟩ := hx session log
  rw [runIn_tryCatch, runIn_tryCatch, hrun]
  rcases y.runIn session with ⟨fault | a, session₁⟩
  · obtain ⟨more, hmore⟩ := hh fault session₁ (log ++ asked)
    exact ⟨asked ++ more, by rw [← List.append_assoc]; exact hmore⟩
  · exact ⟨asked, rfl⟩

theorem ite {c : Prop} [Decidable c] {x x' : Resolving (σ × List Text) α}
    {y y' : Resolving σ α} (hx : Shadows x y) (hx' : Shadows x' y') :
    Shadows (if c then x else x') (if c then y else y') := by
  split
  · exact hx
  · exact hx'

/-- A loop shadows the loop over what its steps shadow. -/
theorem foldlM {g : β → α → Resolving (σ × List Text) β} {k : β → α → Resolving σ β}
    (h : ∀ b a, Shadows (g b a) (k b a)) (b : β) (l : List α) :
    Shadows (l.foldlM g b) (l.foldlM k b) := by
  induction l generalizing b with
  | nil => exact pure b
  | cons a l ih =>
    rw [List.foldlM_cons, List.foldlM_cons]
    exact bind (h b a) ih

end Shadows

end Resolving

open Resolving (Shadows)

namespace Session

/-! ## Look-ups -/

/-- A specifier that is asked for is noted. -/
theorem load_noted (loader : Loader σ) (specifier : Text) (session : Session σ)
    (log : List Text) :
    loader.noted.load specifier (session.noted log).world
      = ((loader.load specifier session.world).1, (loader.load specifier session.world).2,
          log ++ [specifier]) := rfl

/-- **A manifest is asked for once at most**, and noted then. -/
theorem shadows_manifest (plugin : PluginRef) :
    Shadows (manifest loader.noted plugin) (manifest loader plugin) := by
  intro session log
  have hlog := load_noted loader (specifier plugin) session log
  cases hk : session.known? (specifier plugin) with
  | some m =>
    have hk' : (session.noted log).known? (specifier plugin) = some m := hk
    exact ⟨[], by rw [manifest_known hk, manifest_known hk', List.append_nil]⟩
  | none =>
    have hk' : (session.noted log).known? (specifier plugin) = none := hk
    refine ⟨[specifier plugin], ?_⟩
    rcases hload : loader.load (specifier plugin) session.world with ⟨fault | v, world⟩ <;>
      rw [hload] at hlog
    · rw [manifest_failed hk hload, manifest_failed hk' hlog]
      rfl
    · rw [manifest_loaded hk hload, manifest_loaded hk' hlog]
      rfl

/-- **The name of a package is asked for once at most**, and noted then. -/
theorem shadows_packageName (plugin : PluginRef) :
    Shadows (packageName loader.noted plugin) (packageName loader plugin) := by
  intro session log
  cases hl : plugin.isLocal with
  | false =>
    exact ⟨[], by
      rw [packageName_of_not_isLocal hl, packageName_of_not_isLocal hl, List.append_nil]⟩
  | true =>
    have hlog := load_noted loader packageFile session log
    cases hk : session.localPackage with
    | some name =>
      have hk' : (session.noted log).localPackage = some name := hk
      exact ⟨[], by rw [packageName_known hl hk, packageName_known hl hk', List.append_nil]⟩
    | none =>
      have hk' : (session.noted log).localPackage = none := hk
      refine ⟨[packageFile], ?_⟩
      rcases hload : loader.load packageFile session.world with ⟨answer, world⟩
      rw [hload] at hlog
      cases hname : answer >>= declaredName with
      | error fault =>
        rw [packageName_failed hl hk hload hname, packageName_failed hl hk' hlog hname]
        rfl
      | ok name =>
        rw [packageName_declared hl hk hload hname, packageName_declared hl hk' hlog hname]
        rfl

theorem shadows_manifestOrEmpty (plugin : PluginRef) :
    Shadows (manifestOrEmpty loader.noted plugin) (manifestOrEmpty loader plugin) := by
  refine Shadows.tryCatch (shadows_manifest plugin) fun fault => ?_
  cases fault with
  | notFound => exact Shadows.pure _
  | _ => exact Shadows.throw _

theorem shadows_ruleTarget (id : Value) :
    Shadows (ruleTarget loader.noted id) (ruleTarget loader id) := by
  refine Shadows.bind (Shadows.ofExcept _) fun rule => ?_
  refine Shadows.bind (shadows_packageName rule.plugin) fun package => ?_
  refine Shadows.bind (shadows_manifestOrEmpty rule.plugin) fun found => ?_
  exact Shadows.bind (Shadows.ofExcept _) fun path => Shadows.pure _

end Session

namespace Bundle

/-! ## Bundles -/

theorem shadows_add (b : Bundle) (id value : Value) :
    Shadows (b.add loader.noted id value) (b.add loader id value) := by
  refine Shadows.bind (Shadows.ofExcept _) fun normalized => ?_
  refine Shadows.ite (Shadows.pure _) ?_
  exact Shadows.bind (Session.shadows_ruleTarget id) fun target => Shadows.pure _

/-- **A bundle that is made from a noted loader** is the bundle that is made from the loader. -/
theorem shadows_ofRules (loader : Loader σ) (rules : Ruleset) :
    Shadows (ofRules loader.noted rules) (ofRules loader rules) := by
  rw [ofRules, ofRules]
  refine Shadows.foldlM (fun b e => ?_) empty rules.entries
  exact shadows_add b e.1 e.2

/-- **What a loader is asked for when a rule set is bundled**, in order. -/
def requests (loader : Loader σ) (rules : Ruleset) (session : Session σ) : List Text :=
  ((ofRules loader.noted rules).runIn (session.noted [])).2.world.2

/-- A run with a log is the run without it, and the requests. -/
theorem runIn_noted (loader : Loader σ) (rules : Ruleset) (session : Session σ) :
    (ofRules loader.noted rules).runIn (session.noted [])
      = (((ofRules loader rules).runIn session).1,
          ((ofRules loader rules).runIn session).2.noted (requests loader rules session)) := by
  obtain ⟨asked, hrun⟩ := shadows_ofRules loader rules session []
  have hasked : requests loader rules session = asked := by
    rw [requests, hrun]
    rfl
  rw [hrun, hasked, List.nil_append]

end Bundle

end LintBundle
