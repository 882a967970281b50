import LintBundle.Proofs.Circles
import Mathlib.Data.Set.Card

/-!
# Proofs/Descending — an expansion comes to its end

    given ──opens──▸ parents ──opens──▸ … ──opens──▸ parents    one config more in progress each time

The references that an expansion is called with inside itself are those a config extends, with the
config on the chain (`Call`).  The configs on a chain are distinct and served, and a table serves
finitely many, so the chain is no longer than their number (`Descent.length_le`).  Hence the bound
on the depth never comes into play: every depth beyond that number gives the same run
(`runIn_expand_eq`), and the outcome is the one that finitely many steps come to. -/

namespace LintBundle.Extends

open Session (Faithful)

variable {σ : Type} {loader : Loader σ} {f : Text → Except Fault Value}

/-! ## Finitely many configs -/

/-- The named configs that are served. -/
def servedKeys (f : Text → Except Fault Value) : Set ConfigKey :=
  {key | ∃ document, served f key = .ok document}

/-- **A chain is no longer than the configs are many.** -/
theorem Descent.length_le {chain : List Link} (h : Descent f chain)
    (finite : (servedKeys f).Finite) : chain.length ≤ (servedKeys f).ncard := by
  have hsub : ((chain.map Link.key).toFinset : Set ConfigKey) ⊆ servedKeys f := by
    intro key hkey
    obtain ⟨link, hlink, rfl⟩ := List.mem_map.1 (List.mem_toFinset.1 hkey)
    exact h.serves link hlink
  calc chain.length
      = (chain.map Link.key).toFinset.card := by
        rw [List.toFinset_card_of_nodup h.nodup, List.length_map]
    _ = ((chain.map Link.key).toFinset : Set ConfigKey).ncard := (Set.ncard_coe_finset _).symm
    _ ≤ (servedKeys f).ncard := Set.ncard_le_ncard hsub finite

/-- **A loader that counts its configs serves finitely many**, and no more than it counts. -/
theorem Counted.finite_servedKeys {world : σ} (h : Counted loader world) :
    (servedKeys (loader.answer world)).Finite ∧
      (servedKeys (loader.answer world)).ncard ≤ loader.bound world := by
  obtain ⟨keys, hlength, hkeys⟩ := h
  have hsub : servedKeys (loader.answer world) ⊆ (keys.toFinset : Set ConfigKey) := by
    rintro key ⟨document, hdocument⟩
    exact List.mem_toFinset.2 (hkeys key.specifier (mem_answeredKeys hdocument))
  refine ⟨keys.toFinset.finite_toSet.subset hsub, ?_⟩
  calc (servedKeys (loader.answer world)).ncard
      ≤ (keys.toFinset : Set ConfigKey).ncard := Set.ncard_le_ncard hsub keys.toFinset.finite_toSet
    _ = keys.toFinset.card := Set.ncard_coe_finset _
    _ ≤ keys.length := List.toFinset_card_le keys
    _ ≤ loader.bound world := hlength

/-! ## Depth enough -/

section Visit

variable {inherit inherit' : List Link → List Value → Resolving σ Ruleset} {chain : List Link}
  {reference : Value} {found : ConfigRef}

theorem visitIn_unreadable {fault : Fault} (rules : Ruleset)
    (reads : Naming.config reference = .error fault) :
    visitIn loader inherit chain rules reference = throw fault := by
  simp only [visitIn, reads]
  rfl

/-- A reference that names a config closes a circle, or opens the config. -/
theorem visitIn_of_reads (rules : Ruleset) (reads : Naming.config reference = .ok found) :
    visitIn loader inherit chain rules reference =
      if chain.any fun link => link.key = keyOf found then
        throw (.circularExtends (chain.map Link.reference ++ [reference.display]))
      else (do
        let document ← Session.config loader found.plugin found.config
        let inherited ← inherit (chain ++ [⟨keyOf found, reference.display⟩]) document.parents
        MonadExcept.ofExcept (insertQualified found.plugin (rules.insertAll inherited.entries)
          document.rules.entries)) := by
  have hread : (MonadExcept.ofExcept (Naming.config reference) : Resolving σ ConfigRef)
      = pure found := by rw [reads]; rfl
  rw [visitIn, hread, pure_bind]
  split <;> rfl

theorem visitIn_circular (rules : Ruleset) (reads : Naming.config reference = .ok found)
    (known : ¬ IsNew chain found) :
    visitIn loader inherit chain rules reference
      = throw (.circularExtends (chain.map Link.reference ++ [reference.display])) := by
  rw [visitIn_of_reads rules reads, if_pos (by simpa [IsNew] using known)]

theorem visitIn_isNew (rules : Ruleset) (reads : Naming.config reference = .ok found)
    (isNew : IsNew chain found) :
    visitIn loader inherit chain rules reference = (do
      let document ← Session.config loader found.plugin found.config
      let inherited ← inherit (chain ++ [⟨keyOf found, reference.display⟩]) document.parents
      MonadExcept.ofExcept (insertQualified found.plugin (rules.insertAll inherited.entries)
        document.rules.entries)) := by
  rw [visitIn_of_reads rules reads, if_neg (by simpa [IsNew] using isNew)]

/-- **What a reference adds depends on the call it makes**, and on nothing else of what would be
inherited. -/
theorem runIn_visitIn_congr {session : Session σ} (hs : Faithful loader f session)
    (h : ∀ found document, Opens f reference found document → IsNew chain found →
      ∀ session, Faithful loader f session →
        (inherit (chain ++ [⟨keyOf found, reference.display⟩]) document.parents).runIn session
          = (inherit' (chain ++ [⟨keyOf found, reference.display⟩]) document.parents).runIn session)
    (rules : Ruleset) :
    (visitIn loader inherit chain rules reference).runIn session
      = (visitIn loader inherit' chain rules reference).runIn session := by
  cases reads : Naming.config reference with
  | error fault => rw [visitIn_unreadable rules reads, visitIn_unreadable rules reads]
  | ok found =>
    by_cases isNew : IsNew chain found
    case neg => rw [visitIn_circular rules reads isNew, visitIn_circular rules reads isNew]
    obtain ⟨session₁, hrun, hs₁⟩ : ∃ session₁,
        (Session.config loader found.plugin found.config).runIn session
          = (served f (keyOf found), session₁) ∧ Faithful loader f session₁ :=
      Session.follows_config found.plugin found.config session hs
    rw [visitIn_isNew rules reads isNew, visitIn_isNew rules reads isNew, Resolving.runIn_bind,
      Resolving.runIn_bind, hrun]
    cases serves : served f (keyOf found) with
    | error fault => rfl
    | ok document =>
      have hcall := h found document ⟨reads, serves⟩ isNew session₁ hs₁
      simp [hcall]

end Visit

/-- **Every depth that is enough for the calls inside an expansion** gives the same run. -/
theorem runIn_expand_eq {given : List Value} {n : Nat}
    (hn : ∀ chain pending, Call f given chain pending → chain.length ≤ n) {depth depth' : Nat}
    {chain : List Link} {pending : List Value} (call : Call f given chain pending)
    (hd : n < chain.length + depth) (hd' : n < chain.length + depth') {session : Session σ}
    (hs : Faithful loader f session) :
    (expand loader depth chain pending).runIn session
      = (expand loader depth' chain pending).runIn session := by
  have hchain := hn chain pending call
  -- on the depth, which is never zero: the chain is no longer than `n`
  induction depth generalizing depth' chain pending session with
  | zero => omega
  | succ depth ih =>
    cases depth' with
    | zero => omega
    | succ depth' =>
      rw [expand_succ, expand_succ]
      refine Resolving.runIn_foldlM_congr (I := Faithful loader f) ?_ ?_ _ hs
      · intro rules reference
        exact Resolving.Computes.keeps
          (follows_visitIn (follows_expand depth) chain rules reference)
      · intro rules reference mem session hs
        refine runIn_visitIn_congr hs (fun found document opens isNew session hs => ?_) rules
        have call' := call.down mem opens isNew
        refine ih call' ?_ ?_ hs (hn _ _ call') <;>
        · rw [List.length_append, List.length_singleton]
          omega

/-! ## The end of an expansion -/

/-- **How an expansion comes to its end**, given what serves its configs. -/
structure Ends (loader : Loader σ) (f : Text → Except Fault Value) (session : Session σ)
    (references : List Value) : Prop where
  /-- The configs in progress are served. -/
  served : ∀ chain pending, Call f references chain pending →
    ∀ link ∈ chain, link.key ∈ servedKeys f
  /-- They are distinct, together with one that is opened. -/
  distinct : ∀ chain pending, Call f references chain pending → ∀ reference ∈ pending,
    ∀ found, Naming.config reference = .ok found → IsNew chain found →
      (chain.map Link.key ++ [keyOf found]).Nodup
  /-- They are no more than the configs that are served, so the calls one inside the other are one
  more at most. -/
  depth : ∀ chain pending, Call f references chain pending →
    chain.length + 1 ≤ (servedKeys f).ncard + 1
  /-- There is one outcome that finitely many steps come to, and it is the outcome of the run. -/
  outcome : ∃ outcome, (∀ outcome', Expands f [] references outcome' ↔ outcome' = outcome) ∧
    ((rulesOf loader references).runIn session).1 = outcome.map Ruleset.ofList
  /-- A run is the same under every bound on the depth that is beyond the number of configs. -/
  unbounded : ∀ depth, (servedKeys f).ncard < depth →
    (expand loader depth [] references).runIn session = (rulesOf loader references).runIn session

/-- An outcome that is not given up is the one that finitely many steps come to. -/
theorem Yields.outcome {n : Nat} {references : List Value} {outcome : Except Fault Ruleset}
    (h : Yields f references n [] references {} outcome) (hn : ¬ ServesMoreThan f n) :
    ∃ first, (∀ outcome', Expands f [] references outcome' ↔ outcome' = first) ∧
      outcome = first.map Ruleset.ofList := by
  have only : ∀ {first}, Expands f [] references first →
      ∀ outcome', Expands f [] references outcome' ↔ outcome' = first :=
    fun hfirst outcome' => ⟨fun h' => h'.unique hfirst, fun heq => heq ▸ hfirst⟩
  cases outcome with
  | ok rules =>
    obtain ⟨flat, hflat, rfl⟩ := h
    exact ⟨.ok flat, only hflat, rfl⟩
  | error fault =>
    rcases h with hfirst | ⟨-, hmore⟩
    · exact ⟨.error fault, only hfirst, rfl⟩
    · exact absurd hmore.servesMoreThan hn

/-- **An expansion ends** wherever the loader counts the configs it serves. -/
theorem ends_of_counted {session : Session σ} (counted : Counted loader session.world)
    (faithful : Faithful loader (loader.answer session.world) session) (references : List Value) :
    Ends loader (loader.answer session.world) session references := by
  obtain ⟨finite, hcard⟩ := counted.finite_servedKeys
  have hbound := bound_le_configBound loader session
  have hlength : ∀ chain pending, Call (loader.answer session.world) references chain pending →
      chain.length ≤ (servedKeys (loader.answer session.world)).ncard :=
    fun chain pending call => call.descent.length_le finite
  constructor
  case served => exact fun chain pending call => call.descent.serves
  case distinct =>
    intro chain pending call reference _ found _ isNew
    exact isNew.nodup call.descent.nodup
  case depth => exact fun chain pending call => Nat.succ_le_succ (hlength chain pending call)
  case outcome =>
    exact (rulesOf_yields faithful references).outcome (counted.not_servesMoreThan hbound)
  case unbounded =>
    intro depth hdepth
    rw [rulesOf, Resolving.runIn_bind, Resolving.runIn_get]
    refine runIn_expand_eq hlength .start ?_ ?_ faithful <;>
    · rw [List.length_nil]
      omega

/-- **Expansions of the configs of a table end**: the number of these configs is finite, and
whatever they extend, the expansion of references ends within it.  An entry without references is a
fault of its own. -/
theorem expansion_ends {loader : Loader Modules} (table : loader.OfTable)
    {session : Session Modules}
    (faithful : Faithful loader (loader.answer session.world) session) :
    (servedKeys (loader.answer session.world)).Finite ∧ ∀ entry,
      match Document.references entry with
      | .error cause =>
        (rulesOfEntry loader entry).runIn session = (.error (.document cause), session)
      | .ok references =>
        rulesOfEntry loader entry = rulesOf loader references ∧
          Ends loader (loader.answer session.world) session references := by
  have counted := counted_ofTable table session.world
  refine ⟨counted.finite_servedKeys.1, fun entry => ?_⟩
  cases hr : Document.references entry with
  | error cause => simp [rulesOfEntry, hr]
  | ok references =>
    exact ⟨by simp only [rulesOfEntry, hr], ends_of_counted counted faithful references⟩

/-- The expansion of two configs that extend each other ends. -/
theorem expansion_ends_twins :
    Faithful Loader.modules (Loader.modules.answer twins) (Session.start twins) ∧
      Ends Loader.modules (Loader.modules.answer twins) (Session.start twins)
        [.str "plugin:pair/one"] := by
  have faithful := Faithful.start (Loader.OfTable.modules.settled twins)
  exact ⟨faithful,
    ((@expansion_ends _ .modules (Session.start twins) faithful).2 (.str "plugin:pair/one")).2⟩

end LintBundle.Extends
