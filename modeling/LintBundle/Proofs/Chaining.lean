/-!
# Proofs/Chaining — steps that can fail, one after another

What a chain of steps gives is told by what its steps give: of two steps (`bind_eq_ok_iff`,
`bind_eq_error_iff`), and of one step for each item of a list, where it collects
(`mapM_cons_eq_ok`) and where it carries something on (`foldlM_ok_iff`, `foldlM_error_iff`).
-/

namespace LintBundle

variable {ε α β : Type}

/-! ## Two steps -/

/-- What comes second gives what the whole gives. -/
theorem bind_eq_ok_iff {x : Except ε α} {g : α → Except ε β} {b : β} :
    x >>= g = .ok b ↔ ∃ a, x = .ok a ∧ g a = .ok b := by
  cases x with
  | error fault => simp [bind, Except.bind]
  | ok a => simp [bind, Except.bind]

/-- What comes second fails if the first thing does, or with what that gives. -/
theorem bind_eq_error_iff {x : Except ε α} {g : α → Except ε β} {fault : ε} :
    x >>= g = .error fault ↔ x = .error fault ∨ ∃ a, x = .ok a ∧ g a = .error fault := by
  cases x with
  | error fault' => simp [bind, Except.bind]
  | ok a => simp [bind, Except.bind]

/-- What is made of a result is made of one that is there. -/
theorem map_eq_ok {f : α → β} {x : Except ε α} {b : β} (h : x.map f = .ok b) :
    ∃ a, x = .ok a ∧ b = f a := by
  cases x with
  | error fault => cases h
  | ok a => exact ⟨a, rfl, (Except.ok.inj h).symm⟩

/-! ## A step for each item -/

/-- A list that is gone through is gone through one by one. -/
theorem mapM_cons_eq_ok {f : α → Except ε β} {a : α} {l : List α} {r : List β}
    (h : (a :: l).mapM f = .ok r) : ∃ b bs, f a = .ok b ∧ l.mapM f = .ok bs ∧ r = b :: bs := by
  rw [List.mapM_cons] at h
  obtain ⟨b, hb, h⟩ := bind_eq_ok_iff.1 h
  obtain ⟨bs, hbs, h⟩ := bind_eq_ok_iff.1 h
  exact ⟨b, bs, hb, hbs, (Except.ok.inj h).symm⟩

/-- A loop depends on what its step does with the items of the list. -/
theorem foldlM_congr {g g' : β → α → Except ε β} {l : List α}
    (h : ∀ b, ∀ a ∈ l, g b a = g' b a) (b : β) : l.foldlM g b = l.foldlM g' b := by
  induction l generalizing b with
  | nil => rfl
  | cons a l ih =>
    rw [List.foldlM_cons, List.foldlM_cons, h b a (List.mem_cons_self ..)]
    exact congrArg _ (funext fun b' => ih (fun b a' ha' => h b a' (List.mem_cons_of_mem _ ha')) b')

/-- A loop the steps of which succeed whatever came before succeeds where each of them does. -/
theorem foldlM_ok_iff {g : β → α → Except ε β} {P : α → Prop}
    (h : ∀ b a, (∃ b', g b a = .ok b') ↔ P a) (b : β) (l : List α) :
    (∃ b', l.foldlM g b = .ok b') ↔ ∀ a ∈ l, P a := by
  induction l generalizing b with
  | nil => exact ⟨fun _ => by simp, fun _ => ⟨b, rfl⟩⟩
  | cons a l ih =>
    rw [List.foldlM_cons, List.forall_mem_cons, ← h b a]
    cases ha : g b a with
    | error fault => simp [bind, Except.bind]
    | ok b' => simpa [bind, Except.bind] using ih b'

/-- A loop the steps of which fail whatever came before fails as the first of them does. -/
theorem foldlM_error_iff {g : β → α → Except ε β} {P : α → ε → Prop}
    (h : ∀ b a fault, g b a = .error fault ↔ P a fault) (b : β) (l : List α) (fault : ε) :
    l.foldlM g b = .error fault ↔ ∃ before a after, l = before ++ a :: after ∧
      (∀ a' ∈ before, ∀ fault', ¬ P a' fault') ∧ P a fault := by
  induction l generalizing b with
  | nil => simp [pure, Except.pure]
  | cons first l ih =>
    rw [List.foldlM_cons, bind_eq_error_iff, h]
    constructor
    · rintro (hfirst | ⟨b', hfirst, hrest⟩)
      · exact ⟨[], first, l, rfl, by simp, hfirst⟩
      · obtain ⟨before, a, after, rfl, hbefore, ha⟩ := (ih b').1 hrest
        refine ⟨first :: before, a, after, rfl,
          List.forall_mem_cons.2 ⟨fun fault' h' => ?_, hbefore⟩,
          ha⟩
        rw [← h b first fault', hfirst] at h'
        cases h'
    · rintro ⟨_ | ⟨a', before⟩, a, after, hl, hbefore, ha⟩
      · obtain ⟨rfl, rfl⟩ := List.cons.inj hl
        exact .inl ha
      · obtain ⟨rfl, rfl⟩ := List.cons.inj hl
        obtain ⟨hfirst, hbefore⟩ := List.forall_mem_cons.1 hbefore
        cases hstep : g b first with
        | error fault' => exact absurd ((h b first fault').1 hstep) (hfirst fault')
        | ok b' => exact .inr ⟨b', rfl, (ih b').2 ⟨before, a, after, rfl, hbefore, ha⟩⟩

end LintBundle
