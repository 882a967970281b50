import LintBundle.Yaml.Node.Content
import Mathlib.Data.List.Perm.Subperm

/-!
# Proofs/Searching — what the nodes of a document denote

    nodes ──Search──▸ data by number ──value──▸ one value, its ways back labelled

In a document without tags a scalar is read as its spelling suggests, a sequence is a list and a
mapping is a mapping (`Graph.Plain`).  Merging changes nothing about that but the pairs of mappings
and the tag of a key that stands for a value (`Graph.Settles`), so all that the search notes of a
node agrees with the node as it was at first (`Denotes`, `Search.Sound`).  Hence the value of the
document is made of scalars, lists and mappings, and every way back in it leads to a container
around it (`Value.MadeOf`, `madeOf_content`).
-/

namespace LintBundle

variable {α β : Type}

namespace Yaml

/-! ## Merging -/

namespace Graph

variable {g g' : Graph}

theorem node_setBody (g : Graph) (n m : Nat) (body : Body) :
    (g.setBody n body).node m =
      if n = m ∧ m < g.size then { g.node m with body := body } else g.node m := by
  simp only [setBody, node, Array.getD_eq_getD_getElem?, Array.getElem?_modify, size]
  by_cases h : n = m
  · subst h
    by_cases hs : n < g.nodes.size <;> simp [hs]
  · simp [h]

theorem node_setTag (g : Graph) (n m : Nat) (tag : Tag) :
    (g.setTag n tag).node m =
      if n = m ∧ m < g.size then { g.node m with tag := tag } else g.node m := by
  simp only [setTag, node, Array.getD_eq_getD_getElem?, Array.getElem?_modify, size]
  by_cases h : n = m
  · subst h
    by_cases hs : n < g.nodes.size <;> simp [hs]
  · simp [h]

@[simp] theorem size_setBody (g : Graph) (n : Nat) (body : Body) :
    (g.setBody n body).size = g.size := by
  simp [setBody, size]

@[simp] theorem size_setTag (g : Graph) (n : Nat) (tag : Tag) : (g.setTag n tag).size = g.size := by
  simp [setTag, size]

/-- **What merging changes in a graph**: the pairs of mappings, and the tags of keys that stand for
a value. -/
structure Settles (g g' : Graph) : Prop where
  size : g'.size = g.size
  body : ∀ n, g'.body n = g.body n ∨ ∃ pairs pairs', g.body n = .map pairs ∧ g'.body n = .map pairs'
  tag : ∀ n, g'.tag n = g.tag n ∨ (g.tag n = .value ∧ g'.tag n = .str)

theorem Settles.refl (g : Graph) : g.Settles g := ⟨rfl, fun _ => .inl rfl, fun _ => .inl rfl⟩

theorem Settles.trans {g'' : Graph} (h : g.Settles g') (h' : g'.Settles g'') : g.Settles g'' where
  size := h'.size.trans h.size
  body n := by
    rcases h'.body n with heq' | ⟨pairs, pairs', hp, hp'⟩
    · rw [heq']
      exact h.body n
    · rcases h.body n with heq | ⟨pairs₀, -, hp₀, -⟩
      · exact .inr ⟨pairs, pairs', heq ▸ hp, hp'⟩
      · exact .inr ⟨pairs₀, pairs', hp₀, hp'⟩
  tag n := by
    rcases h'.tag n with heq' | ⟨hvalue, hstr⟩
    · rw [heq']
      exact h.tag n
    · rcases h.tag n with heq | ⟨-, hstr'⟩
      · exact .inr ⟨heq ▸ hvalue, hstr⟩
      · rw [hstr'] at hvalue
        cases hvalue

/-- A node that is no mapping keeps its body. -/
theorem Settles.body_eq (h : g.Settles g') {n : Nat} {body : Body} (hbody : g.body n = body)
    (hno : ∀ pairs, body ≠ .map pairs) : g'.body n = body := by
  rcases h.body n with heq | ⟨pairs, -, hp, -⟩
  · exact heq.trans hbody
  · exact absurd (hbody.symm.trans hp) (hno pairs)

theorem settles_setBody {n : Nat} {pairs : List Pair} (h : g.body n = .map pairs)
    (pairs' : List Pair) : g.Settles (g.setBody n (.map pairs')) where
  size := size_setBody ..
  body m := by
    simp only [Graph.body, node_setBody] at h ⊢
    split
    · rename_i hm
      obtain ⟨rfl, -⟩ := hm
      exact .inr ⟨pairs, pairs', h, rfl⟩
    · exact .inl rfl
  tag m := by
    simp only [Graph.tag, node_setBody]
    split <;> exact .inl rfl

theorem settles_setTag {n : Nat} (h : g.tag n = .value) : g.Settles (g.setTag n .str) where
  size := size_setTag ..
  body m := by
    simp only [Graph.body, node_setTag]
    split <;> exact .inl rfl
  tag m := by
    simp only [Graph.tag, node_setTag] at h ⊢
    split
    · rename_i hm
      obtain ⟨rfl, -⟩ := hm
      exact .inr ⟨h, rfl⟩
    · exact .inl rfl

theorem settles_settleKeys (g : Graph) (pairs : List Pair) : g.Settles (g.settleKeys pairs) := by
  induction pairs generalizing g with
  | nil => exact .refl g
  | cons pair rest ih =>
    obtain ⟨k, v⟩ := pair
    rw [settleKeys, List.foldl_cons]
    dsimp only
    split
    · rename_i hk
      exact (settles_setTag hk).trans (ih _)
    · exact ih g

/-- A mapping stays one. -/
theorem Settles.body_map (h : g.Settles g') {n : Nat} {pairs : List Pair}
    (hbody : g.body n = .map pairs) : ∃ pairs', g'.body n = .map pairs' := by
  rcases h.body n with heq | ⟨-, pairs', -, hp'⟩
  · exact ⟨pairs, heq.trans hbody⟩
  · exact ⟨pairs', hp'⟩

/-- A step of merging, from a graph. -/
def Settling (g : Graph) (x : Merging α) : Prop :=
  match x.run g with
  | .ok (_, g') => g.Settles g'
  | .error cause => cause = .malformed

theorem Settling.pure (g : Graph) (a : α) : Settling g (Pure.pure a : Merging α) := Settles.refl g

theorem Settling.bind {x : Merging α} {f : α → Merging β} (hx : Settling g x)
    (hf : ∀ a g', g.Settles g' → Settling g' (f a)) : Settling g (x >>= f) := by
  unfold Settling at hx ⊢
  rw [StateT.run_bind]
  cases hrun : x.run g with
  | error cause =>
    rw [hrun] at hx
    exact hx
  | ok found =>
    obtain ⟨a, g'⟩ := found
    rw [hrun] at hx
    have h := hf a g' hx
    unfold Settling at h
    change match (f a).run g' with | .ok (_, g') => _ | .error cause => _
    cases hrun' : (f a).run g' with
    | error cause =>
      rw [hrun'] at h
      exact h
    | ok found =>
      rw [hrun'] at h
      exact hx.trans h

theorem Settling.get {f : Graph → Merging β} (h : Settling g (f g)) :
    Settling g (MonadState.get >>= f) := h

theorem Settling.modify {f : Graph → Graph} (h : g.Settles (f g)) :
    Settling g (modify f : Merging Unit) := h

theorem Settling.map {x : Merging α} (hx : Settling g x) (f : α → β) : Settling g (f <$> x) := by
  rw [← bind_pure_comp]
  exact hx.bind fun _ _ _ => .pure _ _

theorem Settling.mapM {l : List α} {f : α → Merging β} (hf : ∀ a g, Settling g (f a)) (g : Graph) :
    Settling g (l.mapM f) := by
  induction l generalizing g with
  | nil => exact .pure g []
  | cons a l ih =>
    rw [List.mapM_cons]
    exact (hf a g).bind fun b g' _ => (ih g').bind fun bs g'' _ => .pure g'' _

/-- A pair that merges belongs to a mapping. -/
theorem body_of_firstMerge {n : Nat} {found : Nat × List Pair}
    (h : g.firstMerge (g.pairs n) = some found) : ∃ pairs, g.body n = .map pairs := by
  unfold pairs at h
  split at h
  · exact ⟨_, ‹_›⟩
  · cases h

/-- **Merging settles a graph.** -/
theorem settling (fuel : Nat) :
    (∀ n g, Settling g (merged fuel n)) ∧ ∀ n g, Settling g (takenIn fuel n) := by
  induction fuel with
  | zero => exact ⟨fun _ _ => rfl, fun _ _ => rfl⟩
  | succ fuel ih =>
    refine ⟨fun n g => ?_, fun n g => ?_⟩
    · rw [merged]
      refine .get ?_
      split
      · rename_i pairs hbody
        refine (ih.2 n g).bind fun taken g' hg => .get ?_
        obtain ⟨pairs', hbody'⟩ := hg.body_map hbody
        have hmodify : g'.Settles ((g'.setBody n (.map (taken ++ g'.pairs n))).settleKeys
            (taken ++ g'.pairs n)) :=
          (settles_setBody hbody' _).trans (settles_settleKeys _ _)
        exact Settling.bind (.modify hmodify) fun _ _ _ => .pure _ _
      · exact rfl
    · rw [takenIn]
      refine .get ?_
      split
      · exact .pure _ _
      · rename_i v others hfirst
        obtain ⟨pairs, hbody⟩ := body_of_firstMerge hfirst
        have hset : Settling g (set (g.setBody n (.map others)) : Merging PUnit) :=
          settles_setBody hbody others
        refine hset.bind fun _ g' _ => ?_
        extract_lets joint
        have joined : ∀ found g, Settling g (joint found) :=
          fun found g => (ih.2 n g).bind fun _ _ _ => .pure _ _
        split
        · rename_i items _
          exact ((Settling.mapM (fun v g => ih.1 v g) g').map _).bind fun found g'' _ =>
            joined found g''
        · exact (ih.1 v g').bind fun found g'' _ => joined found g''

theorem settling_mergedPairs (n : Nat) (g : Graph) : Settling g (mergedPairs n) :=
  .get ((settling _).1 n g)

end Graph

/-! ## What a node denotes -/

/-- A graph as a document without tags has it. -/
def Graph.Plain (g : Graph) : Prop :=
  ∀ n, match g.body n with
    | .scalar _ => Datum.empty? (g.tag n) = none
    | .seq _ => g.tag n = .seq
    | .map _ => g.tag n = .map

/-- The value of a scalar with a tag; a key that stands for a value is an ordinary text. -/
def Reading (tag : Tag) (text : List Point) (v : Value) : Prop :=
  if tag = .value then v = .str (Text.ofList text) else tag.read text = .ok v

/-- **What a node denotes**: what it reads as, a list, or a mapping whose keys are scalars. -/
def Denotes (g : Graph) (n : Nat) (datum : Datum) : Prop :=
  match g.body n with
  | .scalar text => ∃ v isConstant, datum = .scalar v isConstant ∧ Reading (g.tag n) text v
  | .seq _ => ∃ items, datum = .list items
  | .map _ => ∃ pairs, datum = .map pairs ∧ ∀ e ∈ pairs, ∃ text, g.body e.1 = .scalar text

/-- The faults of a document: it breaks the grammar, or one of its scalars cannot be read. -/
def Faulty (g : Graph) (cause : TextFault) : Prop :=
  cause = .malformed ∨ ∃ n text, g.body n = .scalar text ∧ (g.tag n).read text = .error cause

/-- What is found has a property, or the fault is one of the document. -/
def Finds (g : Graph) (p : α → Prop) : Except TextFault α → Prop
  | .ok a => p a
  | .error cause => Faulty g cause

/-- A container that waits for its parts. -/
def Waits (g : Graph) (e : Nat × Tag) : Prop := g.tag e.1 = e.2 ∧ (e.2 = .seq ∨ e.2 = .map)

/-- **A search that is right so far.** -/
structure Search.Sound (g : Graph) (s : Search) : Prop where
  settles : g.Settles s.graph
  size : s.data.size = g.size
  denotes : ∀ n datum, s.datum? n = some datum → Denotes g n datum
  pending : ∀ e ∈ s.pending, Waits g e

namespace Search

variable {g : Graph} {s : Search} {p : α → Prop} {q : β → Prop}

/-- A step of the search, from a state that is right so far: it is right after it, and what it
yields has a property; or its fault is one of the document. -/
def Does (g : Graph) (p : α → Prop) (s : Search) (x : Searching α) : Prop :=
  Sound g s → Finds g (fun found => Sound g found.2 ∧ p found.1) (x.run s)

namespace Does

theorem pure {a : α} (h : p a) : Does g p s (Pure.pure a) := fun hs => ⟨hs, h⟩

theorem malformed : Does g p s (throw .malformed : Searching α) := fun _ => .inl rfl

theorem get {f : Search → Searching β} (h : Sound g s → Does g q s (f s)) :
    Does g q s (MonadState.get >>= f) := fun hs => h hs hs

theorem modify {f : Search → Search} (h : Sound g s → Sound g (f s)) :
    Does g (fun _ => True) s (modify f : Searching Unit) := fun hs => ⟨h hs, trivial⟩

theorem bind {x : Searching α} {f : α → Searching β} (hx : Does g p s x)
    (hf : ∀ a s', p a → Does g q s' (f a)) : Does g q s (x >>= f) := by
  intro hs
  have h := hx hs
  rw [StateT.run_bind]
  rcases hrun : x.run s with cause | ⟨a, s'⟩ <;> rw [hrun] at h
  · exact h
  · exact hf a s' h.2 h.1

theorem lift {x : Except TextFault α} (h : Sound g s → Finds g p x) : Does g p s (liftM x) := by
  intro hs
  have h := h hs
  cases x with
  | error cause => exact h
  | ok a => exact ⟨hs, h⟩

theorem forM {l : List α} {f : α → Searching Unit}
    (hf : ∀ a ∈ l, ∀ s, Does g (fun _ => True) s (f a)) (s : Search) :
    Does g (fun _ => True) s (l.forM f) := by
  induction l generalizing s with
  | nil => exact .pure trivial
  | cons a l ih =>
    change Does g _ s (f a >>= fun _ => l.forM f)
    exact (hf a (List.mem_cons_self ..) s).bind fun _ s' _ =>
      ih (fun b hb => hf b (List.mem_cons_of_mem _ hb)) s'

theorem foldlM {l : List α} {f : β → α → Searching β} (hf : ∀ b a s, q b → Does g q s (f b a))
    {b : β} (hb : q b) (s : Search) : Does g q s (l.foldlM f b) := by
  induction l generalizing b s with
  | nil => exact .pure hb
  | cons a l ih =>
    rw [List.foldlM_cons]
    exact (hf b a s hb).bind fun b' s' hb' => ih hb' s'

end Does

/-- A search begins without data. -/
theorem datum?_start (g : Graph) (size n : Nat) :
    datum? ⟨g, Array.replicate size none, []⟩ n = none := by
  rw [datum?, Array.getD_eq_getD_getElem?, Array.getElem?_replicate]
  split <;> rfl

theorem datum?_setIfInBounds (data : Array (Option Datum)) (n m : Nat) (datum : Datum) :
    (data.setIfInBounds n (some datum)).getD m none
      = if n = m ∧ m < data.size then some datum else data.getD m none := by
  simp only [Array.getD_eq_getD_getElem?, Array.getElem?_setIfInBounds]
  by_cases h : n = m
  · subst h
    by_cases hs : n < data.size <;> simp [hs]
  · simp [h]

/-- A node is noted as what it denotes. -/
theorem does_note {n : Nat} {datum : Datum} (h : Denotes g n datum) (s : Search) :
    Does g (fun _ => True) s (note n datum) := by
  refine .modify fun hs => ⟨hs.settles, ?_, fun m d hd => ?_, hs.pending⟩
  · rw [Array.size_setIfInBounds, hs.size]
  rw [datum?, datum?_setIfInBounds] at hd
  split at hd
  · rename_i hm
    obtain ⟨rfl, -⟩ := hm
    obtain rfl : datum = d := Option.some.inj hd
    exact h
  · exact hs.denotes m d hd

/-- A scalar is read by its tag, if that is one of a scalar. -/
theorem scalar_eq {g : Graph} {n : Nat} {text : List Point} (hbody : g.body n = .scalar text) :
    g.scalar n = if (g.tag n).isScalar then
        ((g.tag n).read text).map fun v =>
          .scalar v (g.tag n = .float && Tag.isNanWord (Text.shapes text))
      else .error .malformed := by
  rw [Graph.scalar]
  simp only [Graph.scalarText, hbody]
  cases g.tag n <;> rfl

/-- A scalar is read as it was at first. -/
theorem denotes_scalar {n : Nat} {text : List Point} (hbody : g.body n = .scalar text)
    (hs : Sound g s) : Finds g (Denotes g n) (s.graph.scalar n) := by
  rw [scalar_eq (hs.settles.body_eq hbody (by simp))]
  cases hscalar : (s.graph.tag n).isScalar with
  | false => exact .inl rfl
  | true =>
    rw [if_pos rfl]
    rcases hs.settles.tag n with htag | ⟨hvalue, hstr⟩
    · have hno : g.tag n ≠ .value := by
        rintro hvalue
        rw [htag, hvalue] at hscalar
        cases hscalar
      rw [htag]
      cases hv : (g.tag n).read text with
      | error cause => exact .inr ⟨n, text, hbody, hv⟩
      | ok v =>
        simp only [Except.map, Finds, Denotes, hbody]
        exact ⟨v, _, rfl, by rwa [Reading, if_neg hno]⟩
    · simp only [hstr, Tag.read, Except.map, Finds, Denotes, hbody]
      exact ⟨_, _, rfl, by rw [Reading, if_pos hvalue]⟩

/-- A container is noted without its parts, and waits for them. -/
theorem denotes_empty (hg : g.Plain) {n : Nat} {datum : Datum} (hs : Sound g s)
    (h : Datum.empty? (s.graph.tag n) = some datum) :
    Denotes g n datum ∧ Waits g (n, s.graph.tag n) := by
  rcases hs.settles.tag n with htag | ⟨-, hstr⟩
  · have hn := hg n
    rw [htag] at h ⊢
    cases hbody : g.body n <;> rw [hbody] at hn <;> dsimp only at hn
    · rw [hn] at h
      cases h
    · rw [hn] at h
      obtain rfl := (Option.some.inj h).symm
      exact ⟨by simp [Denotes, hbody], rfl, .inl hn⟩
    · rw [hn] at h
      obtain rfl := (Option.some.inj h).symm
      exact ⟨by simp [Denotes, hbody], rfl, .inr hn⟩
  · rw [hstr] at h
    cases h

/-- What is no container is a scalar. -/
theorem body_of_empty_none (hg : g.Plain) {n : Nat} (hs : Sound g s)
    (h : Datum.empty? (s.graph.tag n) = none) : ∃ text, g.body n = .scalar text := by
  have hn := hg n
  cases hbody : g.body n with
  | scalar text => exact ⟨text, rfl⟩
  | seq items =>
    rw [hbody] at hn
    dsimp only at hn
    rcases hs.settles.tag n with htag | ⟨hvalue, -⟩
    · rw [htag, hn] at h
      cases h
    · rw [hn] at hvalue
      cases hvalue
  | map pairs =>
    rw [hbody] at hn
    dsimp only at hn
    rcases hs.settles.tag n with htag | ⟨hvalue, -⟩
    · rw [htag, hn] at h
      cases h
    · rw [hn] at hvalue
      cases hvalue

theorem does_reach (hg : g.Plain) (n : Nat) (s : Search) :
    Does g (fun _ => True) s (reach n) := by
  refine .get fun hs => ?_
  dsimp only
  split
  · exact .pure trivial
  split
  · rename_i datum hempty
    obtain ⟨hdenotes, hwaits⟩ := denotes_empty hg hs hempty
    refine (does_note hdenotes s).bind fun _ s' _ => .modify fun hs' => ?_
    exact ⟨hs'.settles, hs'.size, hs'.denotes, List.forall_mem_cons.2 ⟨hwaits, hs'.pending⟩⟩
  · rename_i hempty
    obtain ⟨text, hbody⟩ := body_of_empty_none hg hs hempty
    exact (Does.lift (fun _ => denotes_scalar hbody hs)).bind fun datum s' hd => does_note hd s'

/-- A key is a scalar. -/
theorem does_reachKey (hg : g.Plain) (n : Nat) (s : Search) :
    Does g (fun _ => ∃ text, g.body n = .scalar text) s (reachKey n) := by
  refine (does_reach hg n s).bind fun _ s' _ => .get fun hs' => ?_
  split
  · rename_i v b hdatum
    refine .pure ?_
    have h := hs'.denotes n _ hdatum
    unfold Denotes at h
    cases hbody : g.body n with
    | scalar text => exact ⟨text, rfl⟩
    | seq items => simp [hbody] at h
    | map pairs => simp [hbody] at h
  · exact .malformed

theorem does_mergedPairs (n : Nat) (s : Search) :
    Does g (fun _ => True) s (mergedPairs n) := by
  refine .get fun hs => ?_
  have hmerge := Graph.settling_mergedPairs n s.graph
  unfold Graph.Settling at hmerge
  refine Does.bind (p := fun found => g.Settles found.2) (.lift fun _ => ?_) fun found s' hfound =>
    Does.bind (.modify fun hs' => ?_) fun _ _ _ => .pure trivial
  · rcases hrun : (Graph.mergedPairs n).run s.graph with cause | ⟨pairs, graph⟩ <;>
      rw [hrun] at hmerge
    · exact .inl hmerge
    · exact hs.settles.trans hmerge
  · exact ⟨hfound, hs'.size, hs'.denotes, hs'.pending⟩

/-- The keys of the pairs, one of them new or with a new value. -/
theorem forall_mem_putPair {P : Nat → Prop} {pairs : List Pair} {k v : Nat}
    (h : ∀ e ∈ pairs, P e.1) (hk : P k) (s : Search) : ∀ e ∈ s.putPair pairs k v, P e.1 := by
  induction pairs with
  | nil => simpa [putPair] using hk
  | cons e rest ih =>
    obtain ⟨l, w⟩ := e
    obtain ⟨hl, hrest⟩ := List.forall_mem_cons.1 h
    rw [putPair]
    split
    · exact List.forall_mem_cons.2 ⟨hl, hrest⟩
    · exact List.forall_mem_cons.2 ⟨hl, ih hrest⟩

theorem does_openOne (hg : g.Plain) {n : Nat} {tag : Tag} (h : Waits g (n, tag)) (s : Search) :
    Does g (fun _ => True) s (openOne n tag) := by
  refine .get fun hs => ?_
  obtain ⟨htag, hform⟩ := h
  have hn := hg n
  dsimp only at htag hform ⊢
  cases hbody : g.body n with
  | scalar text =>
    rw [hs.settles.body_eq hbody (by simp)]
    rcases hform with rfl | rfl <;> exact .malformed
  | seq items =>
    rw [hbody] at hn
    dsimp only at hn
    rw [hs.settles.body_eq hbody (by simp), ← htag, hn]
    refine (Does.forM (fun m _ s => does_reach hg m s) s).bind fun _ s' _ => does_note ?_ s'
    simp [Denotes, hbody]
  | map pairs =>
    obtain ⟨pairs', hbody'⟩ := hs.settles.body_map hbody
    rw [hbody] at hn
    dsimp only at hn
    rw [hbody', ← htag, hn]
    refine (does_mergedPairs n s).bind fun pairs s' _ => ?_
    refine Does.bind (p := fun pairs => ∀ e ∈ pairs, ∃ text, g.body e.1 = .scalar text)
      (.foldlM (fun found e s hfound => ?_) (by simp) s') fun found s' hfound => does_note ?_ s'
    · refine (does_reachKey hg e.1 s).bind fun _ s' hk => (does_reach hg e.2 s').bind
        fun _ s'' _ => .get fun _ => .pure ?_
      exact forall_mem_putPair (P := fun k => ∃ text, g.body k = .scalar text) hfound hk s''
    · simpa [Denotes, hbody] using hfound

theorem does_openAll (hg : g.Plain) (fuel : Nat) (s : Search) :
    Does g (fun _ => True) s (openAll fuel) := by
  induction fuel generalizing s with
  | zero => exact .pure trivial
  | succ fuel ih =>
    refine .get fun hs => ?_
    dsimp only
    split
    · exact .pure trivial
    refine (Does.modify fun hs => ⟨hs.settles, hs.size, hs.denotes, by simp⟩).bind fun _ s₁ _ => ?_
    refine (Does.forM (fun e he s => ?_) s₁).bind fun _ s₂ _ => ih s₂
    exact does_openOne hg (hs.pending e (List.mem_reverse.1 he)) s

end Search

end Yaml

/-! ## Values made of scalars -/

/-- **A value that is made of scalars**, lists and mappings: `p` holds of all scalars and all keys,
and what leads back leads to a container around it or to one of those with the labels `around`. -/
inductive Value.MadeOf (p : Value → Prop) : List Nat → Value → Prop
  | scalar {around : List Nat} {v : Value} (h : p v) : MadeOf p around v
  | list {around : List Nat} {items : List Value} (h : ∀ v ∈ items, MadeOf p around v) :
    MadeOf p around (.list items)
  | map {around : List Nat} {entries : List (Value × Value)} (keys : ∀ e ∈ entries, p e.1)
    (values : ∀ e ∈ entries, MadeOf p around e.2) : MadeOf p around (.map entries)
  | cyclic {around : List Nat} {label : Nat} {v : Value} (h : MadeOf p (label :: around) v) :
    MadeOf p around (.cyclic label v)
  | back {around : List Nat} {label : Nat} (h : label ∈ around) : MadeOf p around (.back label)

theorem Value.MadeOf.mono {p q : Value → Prop} {around around' : List Nat} {v : Value}
    (h : MadeOf p around v) (hp : ∀ v, p v → q v) (hsub : around ⊆ around') :
    MadeOf q around' v := by
  induction h generalizing around' with
  | scalar h => exact .scalar (hp _ h)
  | list _ ih => exact .list fun v hv => ih v hv hsub
  | map keys _ ih => exact .map (fun e he => hp _ (keys e he)) fun e he => ih e he hsub
  | cyclic _ ih => exact .cyclic (ih (List.cons_subset_cons _ hsub))
  | back h => exact .back (hsub h)

namespace Yaml

/-- What the scalars of a document read as; an empty place is `null`. -/
def ReadIn (g : Graph) (v : Value) : Prop :=
  v = .null ∨ ∃ n text, g.body n = .scalar text ∧ Reading (g.tag n) text v

namespace Search

variable {g : Graph} {s : Search}

/-- A value with the labels it leads back to, all of which are around it. -/
def Closes (p : Value → Prop) (around : List Nat) (found : Value × List Nat) : Prop :=
  found.1.MadeOf p found.2 ∧ found.2 ⊆ around

theorem closes_labelled {p : Value → Prop} {around leads : List Nat} {n : Nat} {v : Value}
    (h : Closes p (n :: around) (v, leads)) : Closes p around (labelled n v leads) := by
  obtain ⟨hv, hsub⟩ := h
  dsimp only at hv hsub
  unfold labelled
  split
  · rename_i hempty
    rw [List.isEmpty_iff] at hempty
    subst hempty
    exact ⟨hv, by simp⟩
  · refine ⟨.cyclic (hv.mono (fun _ => id) fun l hl => ?_), fun l hl => ?_⟩
    · by_cases hn : l = n
      · exact hn ▸ List.mem_cons_self ..
      · exact List.mem_cons_of_mem _ (List.mem_filter.2 ⟨hl, by simpa using hn⟩)
    · obtain ⟨hl, hn⟩ := List.mem_filter.1 hl
      exact (List.mem_cons.1 (hsub hl)).resolve_left (by simpa using hn)

theorem closes_list {p : Value → Prop} {around : List Nat} {parts : List (Value × List Nat)}
    (h : ∀ part ∈ parts, Closes p around part) :
    Closes p around (.list (parts.map Prod.fst), parts.flatMap Prod.snd) := by
  refine ⟨.list fun v hv => ?_, fun l hl => ?_⟩
  · obtain ⟨part, hpart, rfl⟩ := List.mem_map.1 hv
    exact (h part hpart).1.mono (fun _ => id) fun l hl => List.mem_flatMap.2 ⟨part, hpart, hl⟩
  · obtain ⟨part, hpart, hl⟩ := List.mem_flatMap.1 hl
    exact (h part hpart).2 hl

theorem closes_map {p : Value → Prop} {around : List Nat}
    {parts : List ((Value × List Nat) × (Value × List Nat))}
    (keys : ∀ part ∈ parts, p part.1.1 ∧ part.1.2 = [])
    (values : ∀ part ∈ parts, Closes p around part.2) :
    Closes p around (.map (parts.map fun part => (part.1.1, part.2.1)),
      parts.flatMap fun part => part.1.2 ++ part.2.2) := by
  refine ⟨.map (fun e he => ?_) fun e he => ?_, fun l hl => ?_⟩
  · obtain ⟨part, hpart, rfl⟩ := List.mem_map.1 he
    exact (keys part hpart).1
  · obtain ⟨part, hpart, rfl⟩ := List.mem_map.1 he
    exact (values part hpart).1.mono (fun _ => id) fun l hl =>
      List.mem_flatMap.2 ⟨part, hpart, List.mem_append_right _ hl⟩
  · obtain ⟨part, hpart, hl⟩ := List.mem_flatMap.1 hl
    rw [(keys part hpart).2, List.nil_append] at hl
    exact (values part hpart).2 hl

/-- Containers around a place: none of them twice. -/
structure Around (s : Search) (around : List Nat) : Prop where
  nodup : around.Nodup
  container : ∀ n ∈ around, ∃ datum, s.datum? n = some datum ∧ ∀ v b, datum ≠ .scalar v b

theorem lt_size {n : Nat} {datum : Datum} (h : s.datum? n = some datum) : n < s.data.size := by
  by_contra hn
  rw [datum?, Array.getD_eq_getD_getElem?, Array.getElem?_eq_none (by omega)] at h
  cases h

theorem Around.length_le {around : List Nat} (h : Around s around) :
    around.length ≤ s.data.size := by
  have hsub : around ⊆ List.range s.data.size := fun n hn => by
    obtain ⟨datum, hdatum, -⟩ := h.container n hn
    exact List.mem_range.2 (lt_size hdatum)
  simpa using (List.subperm_of_subset h.nodup hsub).length_le

theorem Around.cons {around : List Nat} (h : Around s around) {n : Nat} {datum : Datum}
    (hn : n ∉ around) (hdatum : s.datum? n = some datum) (hno : ∀ v b, datum ≠ .scalar v b) :
    Around s (n :: around) where
  nodup := List.nodup_cons.2 ⟨hn, h.nodup⟩
  container := List.forall_mem_cons.2 ⟨⟨datum, hdatum, hno⟩, h.container⟩

theorem denotes_of_scalar (hs : Sound g s) {n : Nat} {text : List Point}
    (hbody : g.body n = .scalar text) {datum : Datum} (h : s.datum? n = some datum) :
    ∃ v isConstant, datum = .scalar v isConstant ∧ Reading (g.tag n) text v := by
  have hn := hs.denotes n datum h
  rwa [Denotes, hbody] at hn

/-- A scalar leads nowhere, and is no container. -/
theorem value_of_scalar (hs : Sound g s) {n : Nat} {text : List Point}
    (hbody : g.body n = .scalar text) {around : List Nat} (h : Around s around) {fuel : Nat}
    (hfuel : s.data.size < fuel + around.length) :
    ReadIn g (s.value fuel around n).1 ∧ (s.value fuel around n).2 = [] := by
  cases fuel with
  | zero =>
    have := h.length_le
    omega
  | succ fuel =>
    have hmem : n ∉ around := fun hmem => by
      obtain ⟨datum, hdatum, hno⟩ := h.container n hmem
      obtain ⟨v, isConstant, rfl, -⟩ := denotes_of_scalar hs hbody hdatum
      exact hno v isConstant rfl
    rw [value, if_neg (by simpa using hmem)]
    cases hdatum : s.datum? n with
    | none => exact ⟨.inl rfl, rfl⟩
    | some datum =>
      obtain ⟨v, isConstant, rfl, hv⟩ := denotes_of_scalar hs hbody hdatum
      exact ⟨.inr ⟨n, text, hbody, hv⟩, rfl⟩

/-- **The value of a node is made of what the scalars of the document read as.** -/
theorem closes_value (hs : Sound g s) (fuel : Nat) {around : List Nat} (n : Nat)
    (h : Around s around) (hfuel : s.data.size < fuel + around.length) :
    Closes (ReadIn g) around (s.value fuel around n) := by
  induction fuel generalizing around n with
  | zero =>
    have := h.length_le
    omega
  | succ fuel ih =>
    rw [value]
    split
    · rename_i hmem
      have hmem : n ∈ around := List.contains_iff_mem.1 hmem
      exact ⟨.back (List.mem_singleton_self n), by simpa using hmem⟩
    rename_i hmem
    have hmem : n ∉ around := fun h => hmem (List.contains_iff_mem.2 h)
    extract_lets part close closePairs
    have inside : ∀ {datum}, s.datum? n = some datum → (∀ v b, datum ≠ .scalar v b) →
        Around s (n :: around) ∧ ∀ m, Closes (ReadIn g) (n :: around) (part m) := by
      intro datum hdatum hno
      have haround := h.cons hmem hdatum hno
      exact ⟨haround, fun m => ih m haround (by simp only [List.length_cons]; omega)⟩
    cases hdatum : s.datum? n with
    | none => exact ⟨.scalar (.inl rfl), by simp⟩
    | some datum =>
      have hn := hs.denotes n datum hdatum
      unfold Denotes at hn
      cases hbody : g.body n with
      | scalar text =>
        obtain ⟨v, isConstant, rfl, hv⟩ := denotes_of_scalar hs hbody hdatum
        exact ⟨.scalar (.inr ⟨n, text, hbody, hv⟩), by simp⟩
      | seq items' =>
        rw [hbody] at hn
        obtain ⟨items, rfl⟩ := hn
        obtain ⟨-, hparts⟩ := inside hdatum (by simp)
        refine closes_labelled (closes_list fun found hfound => ?_)
        obtain ⟨m, -, rfl⟩ := List.mem_map.1 hfound
        exact hparts m
      | map pairs' =>
        rw [hbody] at hn
        obtain ⟨pairs, rfl, hkeys⟩ := hn
        obtain ⟨haround, hparts⟩ := inside hdatum (by simp)
        refine closes_labelled (closes_map (fun found hfound => ?_) fun found hfound => ?_)
        · obtain ⟨⟨k, v⟩, he, rfl⟩ := List.mem_map.1 hfound
          obtain ⟨text, hk⟩ := hkeys _ he
          exact value_of_scalar hs hk haround (by simp only [List.length_cons]; omega)
        · obtain ⟨⟨k, v⟩, -, rfl⟩ := List.mem_map.1 hfound
          exact hparts v

end Search

/-- **What a document without tags denotes**: a value made of what its scalars read as, all ways
back in which lead to a container around; or else it breaks the grammar, or has a scalar that cannot
be read. -/
theorem madeOf_content {g : Graph} (hg : g.Plain) (root : Nat) :
    Finds g (Value.MadeOf (ReadIn g) []) (g.content root) := by
  have hstart : Search.Sound g ⟨g, Array.replicate g.size none, []⟩ :=
    { settles := .refl g
      size := Array.size_replicate
      denotes := fun n datum h => by
        rw [Search.datum?_start] at h
        cases h
      pending := by simp }
  have hsearch : Search.Does g (fun _ => True) ⟨g, Array.replicate g.size none, []⟩
      (do Search.reach root; Search.openAll (g.size + 1)) :=
    (Search.does_reach hg root _).bind fun _ s _ => Search.does_openAll hg _ s
  have h := hsearch hstart
  unfold Graph.content
  dsimp only
  rcases hrun : (do Search.reach root; Search.openAll (g.size + 1) : Searching Unit).run
      ⟨g, Array.replicate g.size none, []⟩ with cause | ⟨_, s⟩ <;> rw [hrun] at h
  · exact h
  · have hs : Search.Sound g s := h.1
    have hvalue := Search.closes_value hs (g.size + 1) root ⟨List.nodup_nil, by simp⟩
      (by rw [hs.size, List.length_nil]; omega)
    exact hvalue.1.mono (fun _ => id) hvalue.2

end Yaml

end LintBundle
