import LintBundle.Proofs.Expansion
import Mathlib.Data.List.Perm.Subperm

/-!
# Proofs/Tables — loaders of finite tables, and how many configs they serve

Every loader put together from a table of modules answers by a function, and serves no more named
configs than its bound says.  The count goes through the breadth of a value, the number of entries
of its largest mapping: opening a value and taking a field keep within it, and the size of a value
is no less.
-/

namespace LintBundle

variable {σ : Type}

/-! ## The breadth of a value -/

namespace Value

mutual

/-- The number of entries of the largest mapping in a value. -/
def breadth : Value → Nat
  | .list items | .tuple items => breadthItems items
  | .map entries => max entries.length (breadthEntries entries)
  | .object attributes => breadthAttributes attributes
  | .document rules parents => max (max rules.length (breadthEntries rules)) (breadthItems parents)
  | .cyclic _ v => breadth v
  | _ => 0

def breadthItems : List Value → Nat
  | [] => 0
  | v :: rest => max (breadth v) (breadthItems rest)

def breadthEntries : List (Value × Value) → Nat
  | [] => 0
  | (_, v) :: rest => max (breadth v) (breadthEntries rest)

def breadthAttributes : List (String × Value) → Nat
  | [] => 0
  | (_, v) :: rest => max (breadth v) (breadthAttributes rest)

end

/-- A value counts itself. -/
theorem one_le_size (v : Value) : 1 ≤ v.size := by
  cases v with
  | cyclic label v => rw [size]; exact one_le_size v
  | _ => simp [size]

theorem length_le_sizeEntries (entries : List (Value × Value)) :
    entries.length ≤ sizeEntries entries := by
  induction entries with
  | nil => exact Nat.zero_le _
  | cons e entries ih =>
    obtain ⟨k, v⟩ := e
    have hk : 1 ≤ size k := one_le_size k
    rw [List.length_cons, sizeEntries]
    omega

mutual

/-- **No value is broader than it is large.** -/
theorem breadth_le_size (v : Value) : v.breadth ≤ v.size := by
  cases v with
  | list items | tuple items =>
    have := breadthItems_le_size items
    rw [breadth, size]; omega
  | map entries =>
    have := breadthEntries_le_size entries
    have := length_le_sizeEntries entries
    rw [breadth, size]; omega
  | object attributes =>
    have := breadthAttributes_le_size attributes
    rw [breadth, size]; omega
  | document rules parents =>
    have := breadthEntries_le_size rules
    have := length_le_sizeEntries rules
    have := breadthItems_le_size parents
    rw [breadth, size]; omega
  | cyclic label v =>
    have := breadth_le_size v
    rw [breadth, size]; exact this
  | _ => exact Nat.zero_le _

theorem breadthItems_le_size (items : List Value) : breadthItems items ≤ sizeItems items := by
  cases items with
  | nil => exact Nat.zero_le _
  | cons v rest =>
    have := breadth_le_size v
    have := breadthItems_le_size rest
    rw [breadthItems, sizeItems]; omega

theorem breadthEntries_le_size (entries : List (Value × Value)) :
    breadthEntries entries ≤ sizeEntries entries := by
  cases entries with
  | nil => exact Nat.zero_le _
  | cons e rest =>
    obtain ⟨k, v⟩ := e
    have := breadth_le_size v
    have := breadthEntries_le_size rest
    rw [breadthEntries, sizeEntries]; omega

theorem breadthAttributes_le_size (attributes : List (String × Value)) :
    breadthAttributes attributes ≤ sizeAttributes attributes := by
  cases attributes with
  | nil => exact Nat.zero_le _
  | cons e rest =>
    obtain ⟨name, v⟩ := e
    have := breadth_le_size v
    have := breadthAttributes_le_size rest
    rw [breadthAttributes, sizeAttributes]; omega

end

/-! ## Opening a value keeps within its breadth -/

@[simp] theorem length_attachEntries (label : Nat) (whole : Value)
    (entries : List (Value × Value)) :
    (attachEntries label whole entries).length = entries.length := by
  induction entries with
  | nil => rfl
  | cons e entries ih =>
    obtain ⟨k, v⟩ := e
    rw [attachEntries, List.length_cons, List.length_cons, ih]

mutual

theorem breadth_attach_le (label : Nat) (whole v : Value) :
    (attach label whole v).breadth ≤ max whole.breadth v.breadth := by
  cases v with
  | back l =>
    rw [attach]
    split
    · exact Nat.le_max_left ..
    · exact Nat.le_max_right ..
  | cyclic l v =>
    have := breadth_attach_le label whole v
    rw [attach]
    split
    · exact Nat.le_max_right ..
    · rw [breadth, breadth]; exact this
  | list items | tuple items =>
    have := breadthItems_attach_le label whole items
    rw [attach, breadth, breadth]; exact this
  | map entries =>
    have := breadthEntries_attach_le label whole entries
    rw [attach, breadth, breadth, length_attachEntries]; omega
  | _ => exact Nat.le_max_right ..

theorem breadthItems_attach_le (label : Nat) (whole : Value) (items : List Value) :
    breadthItems (attachItems label whole items) ≤ max whole.breadth (breadthItems items) := by
  cases items with
  | nil => exact Nat.zero_le _
  | cons v rest =>
    have := breadth_attach_le label whole v
    have := breadthItems_attach_le label whole rest
    rw [attachItems, breadthItems, breadthItems]; omega

theorem breadthEntries_attach_le (label : Nat) (whole : Value) (entries : List (Value × Value)) :
    breadthEntries (attachEntries label whole entries)
      ≤ max whole.breadth (breadthEntries entries) := by
  cases entries with
  | nil => exact Nat.zero_le _
  | cons e rest =>
    obtain ⟨k, v⟩ := e
    have := breadth_attach_le label whole v
    have := breadthEntries_attach_le label whole rest
    rw [attachEntries, breadthEntries, breadthEntries]; omega

end

theorem breadth_opened_le (v : Value) : v.opened.breadth ≤ v.breadth := by
  cases v with
  | cyclic label v =>
    have := breadth_attach_le label (cyclic label v) v
    rw [breadth] at *
    rw [opened]
    omega
  | _ => exact Nat.le_refl _

theorem breadth_le_breadthEntries {entries : List (Value × Value)} {e : Value × Value}
    (h : e ∈ entries) : e.2.breadth ≤ breadthEntries entries := by
  induction entries with
  | nil => cases h
  | cons a entries ih =>
    rw [breadthEntries]
    rcases List.mem_cons.1 h with rfl | h
    · exact Nat.le_max_left ..
    · exact Nat.le_trans (ih h) (Nat.le_max_right ..)

theorem breadth_le_breadthAttributes {attributes : List (String × Value)} {e : String × Value}
    (h : e ∈ attributes) : e.2.breadth ≤ breadthAttributes attributes := by
  induction attributes with
  | nil => cases h
  | cons a attributes ih =>
    rw [breadthAttributes]
    rcases List.mem_cons.1 h with rfl | h
    · exact Nat.le_max_left ..
    · exact Nat.le_trans (ih h) (Nat.le_max_right ..)

theorem breadth_valueAt?_le {key : Text} {entries : List (Value × Value)} {w : Value}
    (h : valueAt? key entries = some w) : w.breadth ≤ breadthEntries entries := by
  obtain ⟨e, he, rfl⟩ := Option.map_eq_some_iff.1 h
  exact breadth_le_breadthEntries (List.mem_of_find?_eq_some he)

/-- A field of a value is no broader. -/
theorem breadth_field?_le {name : Text} {v w : Value} (h : v.field? name = some w) :
    w.breadth ≤ v.breadth := by
  refine Nat.le_trans ?_ (breadth_opened_le v)
  rw [field?] at h
  split at h
  · rename_i entries heq
    rw [heq, breadth]
    exact Nat.le_trans (breadth_valueAt?_le h) (Nat.le_max_right ..)
  · rename_i attributes heq
    obtain ⟨e, he, rfl⟩ := Option.map_eq_some_iff.1 h
    rw [heq, breadth]
    exact breadth_le_breadthAttributes (List.mem_of_find?_eq_some he)
  · rename_i rules parents heq
    rw [heq, breadth]
    split at h
    · cases h; exact Nat.le_max_left ..
    · split at h
      · cases h; exact Nat.le_max_right ..
      · cases h
  · cases h

/-- **A field has no more entries than its value has nodes.** -/
theorem length_fieldEntries_le (name : Text) (v : Value) :
    (v.fieldEntries name).length ≤ v.size := by
  rw [fieldEntries]
  cases hf : v.field? name with
  | none => exact Nat.zero_le _
  | some w =>
    refine Nat.le_trans ?_ (breadth_le_size v)
    refine Nat.le_trans ?_ (breadth_field?_le hf)
    refine Nat.le_trans ?_ (breadth_opened_le w)
    rw [Option.bind_some, entries?]
    cases w.opened with
    | map entries => exact Nat.le_max_left ..
    | _ => exact Nat.zero_le _

end Value

/-! ## Loaders put together from a table -/

namespace Loader

/-- What a loader answers in a world. -/
def answer (loader : Loader σ) (world : σ) (specifier : Text) : Except Fault Value :=
  (loader.load specifier world).1

theorem answer_builtin (fallback : Option (Loader σ)) (world : σ) (specifier : Text) :
    (builtin fallback).answer world specifier =
      if specifier = builtinPackage then .ok Builtin.manifest
      else fallback.elim (.error (.notFound specifier none)) fun l => l.answer world specifier := by
  simp only [answer, builtin]
  split
  · rfl
  · cases fallback <;> rfl

/-- **The loaders of a table of modules**: the table itself, such a loader with its failed look-ups
reported, and the built-in package alone or in front of such a loader. -/
inductive OfTable : Loader Modules → Prop
  | modules : OfTable Loader.modules
  | reportMissing {loader : Loader Modules} (h : OfTable loader) : OfTable loader.reportMissing
  | builtinOnly : OfTable (builtin none)
  | builtin {loader : Loader Modules} (h : OfTable loader) : OfTable (builtin (some loader))

/-- A loader that goes on answering as it does in a world. -/
def Settled (loader : Loader σ) (world : σ) : Prop := loader.Answers (loader.answer world) world

/-- A loader whose answers no request changes. -/
theorem settled_of_next {loader : Loader σ}
    (h : ∀ world requested specifier,
      loader.answer (loader.load requested world).2 specifier = loader.answer world specifier)
    (world : σ) : loader.Settled world := by
  intro requests specifier
  induction requests generalizing world with
  | nil => rfl
  | cons requested requests ih => exact (ih _).trans (h world requested specifier)

/-- **The loaders of a table answer by a function.** -/
theorem OfTable.answer_next {loader : Loader Modules} (h : loader.OfTable) (world : Modules)
    (requested specifier : Text) :
    loader.answer (loader.load requested world).2 specifier = loader.answer world specifier := by
  induction h with
  | modules => rfl
  | reportMissing _ ih => exact congrArg (Except.mapError _) ih
  | builtinOnly => simp only [answer_builtin, Option.elim_none]
  | @builtin loader _ ih =>
    rw [answer_builtin, answer_builtin, Option.elim_some, Option.elim_some]
    by_cases hr : requested = builtinPackage
    · simp only [Loader.builtin, if_pos hr]
    · simp only [Loader.builtin, if_neg hr, ih]

theorem OfTable.settled {loader : Loader Modules} (h : loader.OfTable) (world : Modules) :
    loader.Settled world :=
  settled_of_next h.answer_next world

end Loader

/-! ## Counting the configs that are served -/

namespace Extends

/-- The configs of an export, by their keys. -/
def configKeys (specifier : Text) (exported : Value) : List ConfigKey :=
  (exported.fieldEntries "configs").filterMap fun e =>
    match e.1 with
    | .str name => some ⟨specifier, name⟩
    | _ => none

/-- The configs of what a loader answers. -/
def answeredKeys (specifier : Text) (entry : Except Fault Value) : List ConfigKey :=
  entry.toOption.elim [] (configKeys specifier)

theorem length_answeredKeys_le (specifier : Text) (entry : Except Fault Value) :
    (answeredKeys specifier entry).length ≤ entry.toOption.elim 0 Value.size := by
  cases entry with
  | error fault => exact Nat.zero_le _
  | ok exported =>
    exact Nat.le_trans (List.length_filterMap_le ..) (Value.length_fieldEntries_le ..)

/-- A config that is served is among those of the export. -/
theorem mem_answeredKeys {f : Text → Except Fault Value} {key : ConfigKey} {document : Document}
    (h : served f key = .ok document) : key ∈ answeredKeys key.specifier (f key.specifier) := by
  rw [served, Session.manifestBy] at h
  cases hf : f key.specifier with
  | error fault => rw [hf] at h; cases h
  | ok exported =>
    rw [hf] at h
    change Session.namedConfig (Manifest.ofValue exported) _ _ = _ at h
    cases hv : Value.valueAt? key.config (exported.fieldEntries "configs") with
    | none => simp [Session.namedConfig, Manifest.config?, Manifest.ofValue, hv] at h
    | some v =>
      obtain ⟨e, he, _⟩ := Option.map_eq_some_iff.1 hv
      have hs : e.1 = .str key.config := Value.same_str.1 (by simpa using List.find?_some he)
      refine List.mem_filterMap.2 ⟨e, List.mem_of_find?_eq_some he, ?_⟩
      rw [hs]

/-- **A loader that serves no more configs than it counts.** -/
def Counted (loader : Loader σ) (world : σ) : Prop :=
  ∃ keys : List ConfigKey, keys.length ≤ loader.bound world ∧
    ∀ specifier, answeredKeys specifier (loader.answer world specifier) ⊆ keys

/-- Where no more configs are served than a number says, distinct ones are no more. -/
theorem Counted.not_servesMoreThan {loader : Loader σ} {world : σ} (h : Counted loader world)
    {n : Nat} (hn : loader.bound world ≤ n) : ¬ ServesMoreThan (loader.answer world) n := by
  obtain ⟨keys, hlength, hkeys⟩ := h
  rintro ⟨distinct, hnodup, hserved, hlt⟩
  have hsub : distinct ⊆ keys := by
    intro key hkey
    obtain ⟨document, hdocument⟩ := hserved key hkey
    exact hkeys key.specifier (mem_answeredKeys hdocument)
  have hle := (List.subperm_of_subset hnodup hsub).length_le
  omega

/-- What a session remembers only adds to the depth. -/
theorem bound_le_configBound (loader : Loader σ) (session : Session σ) :
    loader.bound session.world ≤ configBound loader session := by
  rw [configBound]
  induction session.manifests with
  | nil => exact Nat.le_refl _
  | cons e manifests ih => exact Nat.le_trans ih (Nat.le_add_left ..)

theorem answeredKeys_mapError (g : Fault → Fault) (specifier : Text) (entry : Except Fault Value) :
    answeredKeys specifier (entry.mapError g) = answeredKeys specifier entry := by
  cases entry <;> rfl

/-- A table counts the configs of all its modules. -/
theorem counted_modules (modules : Modules) : Counted Loader.modules modules := by
  refine ⟨modules.entries.flatMap fun e => answeredKeys e.1 e.2, ?_, ?_⟩
  · change _ ≤ modules.size
    rw [Modules.size]
    induction modules.entries with
    | nil => exact Nat.le_refl _
    | cons e entries ih =>
      have he := length_answeredKeys_le e.1 e.2
      rw [List.flatMap_cons, List.length_append]
      exact Nat.add_le_add he ih
  · intro specifier key hkey
    change key ∈ answeredKeys specifier ((modules.find specifier).getD _) at hkey
    cases hm : modules.find specifier with
    | none => rw [hm] at hkey; cases hkey
    | some entry =>
      rw [hm] at hkey
      obtain ⟨e, he, rfl⟩ := Option.map_eq_some_iff.1 hm
      have hs : e.1 = specifier := by simpa using List.find?_some he
      exact List.mem_flatMap.2 ⟨e, List.mem_of_find?_eq_some he, hs ▸ hkey⟩

@[simp] theorem length_configKeys_builtin :
    (configKeys builtinPackage Builtin.manifest).length = Builtin.configCount := by
  decide +kernel

/-- **Every loader of a table counts the configs it serves.** -/
theorem counted_ofTable {loader : Loader Modules} (h : loader.OfTable) (modules : Modules) :
    Counted loader modules := by
  induction h with
  | modules => exact counted_modules modules
  | @reportMissing loader _ ih =>
    obtain ⟨keys, hlength, hkeys⟩ := ih
    refine ⟨keys, hlength, fun specifier => ?_⟩
    change answeredKeys specifier ((loader.answer modules specifier).mapError _) ⊆ keys
    rw [answeredKeys_mapError]
    exact hkeys specifier
  | builtinOnly =>
    refine ⟨configKeys builtinPackage Builtin.manifest, Nat.le_of_eq length_configKeys_builtin, ?_⟩
    intro specifier key hkey
    rw [Loader.answer_builtin] at hkey
    by_cases hs : specifier = builtinPackage
    · rw [if_pos hs] at hkey
      exact hs ▸ hkey
    · rw [if_neg hs] at hkey
      cases hkey
  | @builtin loader _ ih =>
    obtain ⟨keys, hlength, hkeys⟩ := ih
    refine ⟨configKeys builtinPackage Builtin.manifest ++ keys, ?_, ?_⟩
    · rw [List.length_append, length_configKeys_builtin]
      exact Nat.add_le_add_left hlength _
    · intro specifier key hkey
      rw [Loader.answer_builtin] at hkey
      by_cases hs : specifier = builtinPackage
      · rw [if_pos hs] at hkey
        exact List.mem_append_left _ (hs ▸ hkey)
      · rw [if_neg hs] at hkey
        exact List.mem_append_right _ (hkeys specifier hkey)

end Extends

end LintBundle
