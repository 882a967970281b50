import LintBundle.Proofs.Numbering
import LintBundle.Proofs.Searching
import LintBundle.Yaml

/-!
# Proofs/Denoting — what laid-out nodes denote

    nodes with their parts behind them ──levels──▸ all data known ──value──▸ the data laid out

Where the parts of every node come behind it and can be read (`Graph.Neat`), no step of the search
fails: level by level the nodes that wait have greater numbers (`Search.Underway`), so in the end
nothing waits and every node reached has its datum (`Search.Complete`).  The nodes of laid-out data
are such, and the value found for them is the data (`content_laid`).
-/

namespace LintBundle.Yaml

variable {α β : Type} {g : Graph}

/-! ## Neat graphs -/

namespace Graph

/-- The numbers of the parts of a node. -/
def parts (g : Graph) (n : Nat) : List Nat :=
  match g.body n with
  | .scalar _ => []
  | .seq items => items
  | .map pairs => pairs.flatMap fun e => [e.1, e.2]

/-- A node that is a text. -/
def IsText (g : Graph) (n : Nat) : Prop := g.tag n = .str ∧ ∃ text, g.body n = .scalar text

/-- A place behind a node. -/
def Behind (g : Graph) (n m : Nat) : Prop := n < m ∧ m < g.size

/-- **A node that can be read**, if it is a scalar, and whose parts come behind it; its keys are
texts. -/
def Neat (g : Graph) (n : Nat) : Prop :=
  match g.body n with
  | .scalar text => ∃ v, (g.tag n).read text = .ok v
  | .seq items => g.tag n = .seq ∧ ∀ m ∈ items, g.Behind n m
  | .map pairs => g.tag n = .map ∧ ∀ e ∈ pairs, (g.Behind n e.1 ∧ g.IsText e.1) ∧ g.Behind n e.2

/-- Adds a pair at the end, or gives the pair with that text as its key a new value. -/
def put (g : Graph) (pairs : List Pair) (k v : Nat) : List Pair :=
  match pairs with
  | [] => [(k, v)]
  | (l, w) :: rest => if g.body l = g.body k then (l, v) :: rest else (l, w) :: g.put rest k v

/-- The datum of a node in the end. -/
def Means (g : Graph) (n : Nat) (datum : Datum) : Prop :=
  match g.body n with
  | .scalar text => ∃ v, (g.tag n).read text = .ok v ∧
      datum = .scalar v (g.tag n = .float && Tag.isNanWord (Text.shapes text))
  | .seq items => datum = .list items
  | .map pairs => datum = .map (pairs.foldl (fun found e => g.put found e.1 e.2) [])

theorem setBody_eq {n : Nat} {body : Body} (h : g.body n = body) : g.setBody n body = g := by
  refine congrArg Graph.mk (Array.ext (by simp) fun m hm hm' => ?_)
  rw [Array.getElem_modify]
  split
  · rename_i heq
    subst heq
    have hnode : g.nodes[n] = g.node n := by simp [node, hm']
    rw [hnode, ← h]
    rfl
  · rfl

theorem settleKeys_eq {pairs : List Pair} (h : ∀ e ∈ pairs, g.tag e.1 ≠ .value) :
    g.settleKeys pairs = g := by
  induction pairs with
  | nil => rfl
  | cons e rest ih =>
    obtain ⟨he, hrest⟩ := List.forall_mem_cons.1 h
    rw [settleKeys, List.foldl_cons]
    dsimp only
    rw [if_neg he]
    exact ih hrest

theorem firstMerge_eq_none {pairs : List Pair} (h : ∀ e ∈ pairs, g.tag e.1 ≠ .merge) :
    g.firstMerge pairs = none := by
  induction pairs with
  | nil => rfl
  | cons e rest ih =>
    obtain ⟨he, hrest⟩ := List.forall_mem_cons.1 h
    rw [firstMerge, if_neg he, ih hrest]
    rfl

@[simp] theorem run_get {f : Graph → Merging α} : (MonadState.get >>= f).run g = (f g).run g := rfl

/-- A mapping all whose keys are texts takes nothing in. -/
theorem run_mergedPairs {n : Nat} {pairs : List Pair} (hbody : g.body n = .map pairs)
    (hkeys : ∀ e ∈ pairs, g.IsText e.1) : (mergedPairs n).run g = .ok (pairs, g) := by
  have hpairs : g.pairs n = pairs := by rw [Graph.pairs, hbody]
  have hfirst : g.firstMerge (g.pairs n) = none :=
    firstMerge_eq_none fun e he => by simp [(hkeys e (hpairs ▸ he)).1]
  have htaken : ∀ fuel, (takenIn (fuel + 1) n).run g = .ok ([], g) := fun fuel => by
    rw [takenIn, run_get, hfirst]
    rfl
  have hsettled : (g.setBody n (.map pairs)).settleKeys pairs = g := by
    rw [setBody_eq hbody]
    exact settleKeys_eq fun e he => by simp [(hkeys e he).1]
  rw [mergedPairs, run_get, merged, run_get, hbody]
  dsimp only
  rw [StateT.run_bind, htaken]
  change Except.ok (g.pairs n, (g.setBody n (.map (g.pairs n))).settleKeys (g.pairs n)) = _
  rw [hpairs, hsettled]

end Graph

/-! ## The search -/

namespace Search

variable {s s' : Search} {p : α → Search → Prop} {q : β → Search → Prop}

/-- A step that yields something, with a property. -/
def Gives (p : α → Search → Prop) (s : Search) (x : Searching α) : Prop :=
  match x.run s with
  | .ok (a, s') => p a s'
  | .error _ => False

namespace Gives

theorem pure {a : α} (h : p a s) : Gives p s (Pure.pure a) := h

theorem get {f : Search → Searching β} (h : Gives q s (f s)) :
    Gives q s (MonadState.get >>= f) := h

theorem lift {x : Except TextFault α} {a : α} (hx : x = .ok a) (h : p a s) :
    Gives p s (liftM x) := by
  subst hx
  exact h

theorem bind {x : Searching α} {f : α → Searching β} (hx : Gives p s x)
    (hf : ∀ a s', p a s' → Gives q s' (f a)) : Gives q s (x >>= f) := by
  unfold Gives at hx ⊢
  rw [StateT.run_bind]
  rcases hrun : x.run s with cause | ⟨a, s'⟩ <;> rw [hrun] at hx
  · exact hx
  · exact hf a s' hx

theorem mono {p' : α → Search → Prop} {x : Searching α} (hx : Gives p s x)
    (h : ∀ a s', p a s' → p' a s') : Gives p' s x := by
  unfold Gives at hx ⊢
  rcases hrun : x.run s with cause | ⟨a, s'⟩ <;> rw [hrun] at hx
  · exact hx
  · exact h a s' hx

end Gives

/-- A node whose datum is noted. -/
def Knows (s : Search) (n : Nat) : Prop := (s.datum? n).isSome = true

/-- What is known stays known. -/
def Grows (s s' : Search) : Prop := ∀ n, s.Knows n → s'.Knows n

theorem Grows.refl (s : Search) : s.Grows s := fun _ => id

theorem Grows.trans {s'' : Search} (h : s.Grows s') (h' : s'.Grows s'') : s.Grows s'' :=
  fun n hn => h' n (h n hn)

/-- A datum that is the one in the end, and whose parts are known. -/
def Settled (g : Graph) (s : Search) (n : Nat) (datum : Datum) : Prop :=
  g.Means n datum ∧ ∀ m ∈ g.parts n, s.Knows m

/-- **A search on its way**: the graph is as it was, what is known has its datum in the end or
waits, and what waits in the search has a number from a bound on. -/
structure Underway (g : Graph) (todo : List (Nat × Tag)) (bound : Nat) (s : Search) : Prop where
  graph : s.graph = g
  size : s.data.size = g.size
  known : ∀ n datum, s.datum? n = some datum →
    Settled g s n datum ∨ (n, g.tag n) ∈ todo ++ s.pending
  waiting : ∀ e ∈ todo ++ s.pending, e.1 < g.size ∧ Waits g e
  bound : ∀ e ∈ s.pending, bound ≤ e.1

variable {todo : List (Nat × Tag)} {bound : Nat}

/-- A node takes its turn to wait. -/
theorem Underway.push (h : Underway g todo bound s) {n : Nat} (hn : n < g.size)
    (hwaits : Waits g (n, g.tag n)) (hbound : bound ≤ n) :
    Underway g todo bound { s with pending := (n, g.tag n) :: s.pending } where
  graph := h.graph
  size := h.size
  known m datum hm := by
    refine (h.known m datum hm).imp_right fun hmem => ?_
    simp only [List.mem_append, List.mem_cons] at hmem ⊢
    tauto
  waiting e he := by
    simp only [List.mem_append, List.mem_cons] at he
    rcases he with he | rfl | he
    · exact h.waiting e (List.mem_append_left _ he)
    · exact ⟨hn, hwaits⟩
    · exact h.waiting e (List.mem_append_right _ he)
  bound := List.forall_mem_cons.2 ⟨hbound, h.bound⟩

/-- The state with the datum of a node. -/
def noted (s : Search) (n : Nat) (datum : Datum) : Search :=
  { s with data := s.data.setIfInBounds n (some datum) }

theorem datum?_noted (h : s.data.size = g.size) {n : Nat} (hn : n < g.size) (datum : Datum)
    (m : Nat) : (s.noted n datum).datum? m = if n = m then some datum else s.datum? m := by
  rw [datum?, noted, datum?_setIfInBounds]
  by_cases hm : n = m
  · subst hm
    rw [if_pos ⟨rfl, h ▸ hn⟩, if_pos rfl]
  · rw [if_neg fun hand => hm hand.1, if_neg hm]
    rfl

theorem grows_noted (h : s.data.size = g.size) {n : Nat} (hn : n < g.size) (datum : Datum) :
    s.Grows (s.noted n datum) ∧ (s.noted n datum).Knows n := by
  refine ⟨fun m hm => ?_, ?_⟩
  · rw [Knows, datum?_noted h hn]
    split
    · rfl
    · exact hm
  · rw [Knows, datum?_noted h hn, if_pos rfl]
    rfl

/-- A node that waits, or whose datum is the one in the end, is noted; it waits no more in that
case. -/
theorem Underway.noted {todo' : List (Nat × Tag)} (h : Underway g todo bound s) {n : Nat}
    (hn : n < g.size) {datum : Datum} (hsub : todo' ⊆ todo)
    (hother : ∀ e ∈ todo, e.1 ≠ n → e ∈ todo')
    (hdatum : Settled g s n datum ∨ (n, g.tag n) ∈ todo' ++ s.pending) :
    Underway g todo' bound (s.noted n datum) where
  graph := h.graph
  size := (Array.size_setIfInBounds ..).trans h.size
  known m d hm := by
    have hgrows := (grows_noted h.size hn datum).1
    have settled : ∀ {m d}, Settled g s m d → Settled g (s.noted n datum) m d := fun hsettled =>
      ⟨hsettled.1, fun l hl => hgrows l (hsettled.2 l hl)⟩
    rw [datum?_noted h.size hn] at hm
    split at hm
    · rename_i heq
      subst heq
      obtain rfl : datum = d := Option.some.inj hm
      exact hdatum.imp_left settled
    · rename_i hne
      rcases h.known m d hm with hsettled | hmem
      · exact .inl (settled hsettled)
      · refine .inr (List.mem_append.2 ((List.mem_append.1 hmem).imp_left fun hmem => ?_))
        exact hother _ hmem fun heq => hne heq.symm
  waiting e he := h.waiting e <| List.mem_append.2 <|
    (List.mem_append.1 he).imp_left fun he => hsub he
  bound := h.bound

/-- A container is noted without its parts, and waits for them. -/
theorem Underway.noted_container (h : Underway g todo bound s) {n : Nat} (hn : n < g.size)
    (hwaits : Waits g (n, g.tag n)) (hbound : bound ≤ n) (datum : Datum) :
    Underway g todo bound ({ s with pending := (n, g.tag n) :: s.pending }.noted n datum) ∧
      s.Grows ({ s with pending := (n, g.tag n) :: s.pending }.noted n datum) ∧
      ({ s with pending := (n, g.tag n) :: s.pending }.noted n datum).Knows n :=
  ⟨(h.push hn hwaits hbound).noted hn (List.Subset.refl _) (fun _ he _ => he) (.inr (by simp)),
    grows_noted h.size hn datum⟩

/-- What is read as a scalar waits for nothing. -/
theorem empty?_of_read {tag : Tag} {text : List Point} {v : Value} (h : tag.read text = .ok v) :
    Datum.empty? tag = none ∧ tag.isScalar = true := by
  cases tag <;> first | exact ⟨rfl, rfl⟩ | cases h

/-- **A neat node is reached.** -/
theorem gives_reach (hs : Underway g todo bound s) {n : Nat} (hneat : g.Neat n) (hn : n < g.size)
    (hbound : bound ≤ n) :
    Gives (fun _ s' => Underway g todo bound s' ∧ s.Grows s' ∧ s'.Knows n) s (reach n) := by
  refine .get ?_
  dsimp only
  split
  · rename_i hknown
    exact .pure ⟨hs, .refl s, hknown⟩
  have hgraph := hs.graph
  subst hgraph
  unfold Graph.Neat at hneat
  cases hbody : s.graph.body n with
  | scalar text =>
    rw [hbody] at hneat
    obtain ⟨v, hv⟩ := hneat
    obtain ⟨hempty, hscalar⟩ := empty?_of_read hv
    rw [hempty]
    dsimp only
    rw [scalar_eq hbody, if_pos hscalar, hv]
    refine ⟨hs.noted hn (List.Subset.refl _) (fun _ he _ => he) (.inl ⟨?_, ?_⟩),
      grows_noted hs.size hn _⟩
    · rw [Graph.Means, hbody]
      exact ⟨v, hv, rfl⟩
    · simp [Graph.parts, hbody]
  | seq items =>
    rw [hbody] at hneat
    have hempty : Datum.empty? (s.graph.tag n) = some (.list []) := by
      rw [hneat.1]
      rfl
    rw [hempty]
    exact hs.noted_container hn ⟨rfl, .inl hneat.1⟩ hbound _
  | map pairs =>
    rw [hbody] at hneat
    have hempty : Datum.empty? (s.graph.tag n) = some (.map []) := by
      rw [hneat.1]
      rfl
    rw [hempty]
    exact hs.noted_container hn ⟨rfl, .inr hneat.1⟩ hbound _

/-- A text that is known is noted as one. -/
theorem Underway.datum?_text (hs : Underway g todo bound s) {n : Nat} (hn : g.IsText n)
    (hknown : s.Knows n) :
    ∃ text, g.body n = .scalar text ∧
      s.datum? n = some (.scalar (.str (.ofList text)) false) := by
  obtain ⟨htag, text, hbody⟩ := hn
  obtain ⟨datum, hdatum⟩ := Option.isSome_iff_exists.1 hknown
  refine ⟨text, hbody, ?_⟩
  rcases hs.known n datum hdatum with ⟨hmeans, -⟩ | hmem
  · rw [Graph.Means, hbody] at hmeans
    obtain ⟨v, hv, rfl⟩ := hmeans
    rw [htag] at hv
    obtain rfl : Value.str (.ofList text) = v := Except.ok.inj hv
    simp [hdatum, htag]
  · obtain ⟨-, -, htag'⟩ := hs.waiting _ hmem
    dsimp only at htag'
    rw [htag] at htag'
    rcases htag' with h | h <;> cases h

/-- Keys that are texts are one key where their texts are one. -/
theorem Underway.isSameKey_eq (hs : Underway g todo bound s) {k l : Nat} (hk : g.IsText k)
    (hl : g.IsText l) (hknown : s.Knows k) (hknown' : s.Knows l) :
    s.isSameKey k l = decide (g.body k = g.body l) := by
  obtain ⟨text, hbody, hdatum⟩ := hs.datum?_text hk hknown
  obtain ⟨text', hbody', hdatum'⟩ := hs.datum?_text hl hknown'
  have hsame : Value.same (.str (.ofList text)) (.str (.ofList text'))
      = decide (text = text') := by
    simp [Value.same]
  rw [isSameKey, hdatum, hdatum', hbody, hbody']
  dsimp only
  rw [hsame]
  by_cases hkl : k = l
  · subst hkl
    rw [hbody] at hbody'
    simp [Body.scalar.inj hbody']
  · simp [hkl]

/-- A key the search can compare. -/
def IsKnownText (g : Graph) (s : Search) (n : Nat) : Prop := g.IsText n ∧ s.Knows n

theorem Underway.putPair_eq (hs : Underway g todo bound s) {found : List Pair} {k v : Nat}
    (hfound : ∀ e ∈ found, IsKnownText g s e.1) (hk : IsKnownText g s k) :
    s.putPair found k v = g.put found k v := by
  induction found with
  | nil => rfl
  | cons e rest ih =>
    obtain ⟨he, hrest⟩ := List.forall_mem_cons.1 hfound
    rw [putPair, Graph.put, ih hrest, hs.isSameKey_eq he.1 hk.1 he.2 hk.2]
    simp only [decide_eq_true_eq]

/-- A neat node behind another, which can be reached. -/
def Reachable (g : Graph) (bound n : Nat) : Prop := g.Neat n ∧ n < g.size ∧ bound ≤ n

theorem gives_reachAll (hs : Underway g todo bound s) {items : List Nat}
    (h : ∀ n ∈ items, Reachable g bound n) :
    Gives (fun _ s' => Underway g todo bound s' ∧ s.Grows s' ∧ ∀ n ∈ items, s'.Knows n) s
      (items.forM reach) := by
  induction items generalizing s with
  | nil => exact .pure ⟨hs, .refl s, by simp⟩
  | cons n items ih =>
    obtain ⟨⟨hneat, hn, hbound⟩, hitems⟩ := List.forall_mem_cons.1 h
    change Gives _ s (reach n >>= fun _ => items.forM reach)
    refine (gives_reach hs hneat hn hbound).bind fun _ s₁ ⟨hs₁, hgrows₁, hknown⟩ => ?_
    refine (ih hs₁ hitems).mono fun _ s₂ ⟨hs₂, hgrows₂, hall⟩ => ?_
    exact ⟨hs₂, hgrows₁.trans hgrows₂, List.forall_mem_cons.2 ⟨hgrows₂ n hknown, hall⟩⟩

/-- A pair whose key is a text, and whose parts can be reached. -/
def ReachablePair (g : Graph) (bound : Nat) (e : Pair) : Prop :=
  (Reachable g bound e.1 ∧ g.IsText e.1) ∧ Reachable g bound e.2

/-- A neat key that is a text is reached. -/
theorem gives_reachKey (hs : Underway g todo bound s) {n : Nat} (hn : Reachable g bound n)
    (htext : g.IsText n) :
    Gives (fun _ s' => Underway g todo bound s' ∧ s.Grows s' ∧ s'.Knows n) s (reachKey n) := by
  obtain ⟨hneat, hsize, hbound⟩ := hn
  refine (gives_reach hs hneat hsize hbound).bind fun _ s₁ ⟨hs₁, hgrows, hknown⟩ => .get ?_
  obtain ⟨text, -, hdatum⟩ := hs₁.datum?_text htext hknown
  rw [hdatum]
  exact .pure ⟨hs₁, hgrows, hknown⟩

/-- The step that finds one pair of a mapping. -/
def putting (found : List Pair) (e : Pair) : Searching (List Pair) := do
  reachKey e.1
  reach e.2
  return (← get).putPair found e.1 e.2

theorem gives_putting (hs : Underway g todo bound s) {found : List Pair} {e : Pair}
    (hfound : ∀ e ∈ found, IsKnownText g s e.1) (he : ReachablePair g bound e) :
    Gives (fun found' s' => Underway g todo bound s' ∧ s.Grows s' ∧ found' = g.put found e.1 e.2 ∧
      (∀ e ∈ found', IsKnownText g s' e.1) ∧ s'.Knows e.1 ∧ s'.Knows e.2) s (putting found e) := by
  obtain ⟨⟨hk, htext⟩, hneat, hsize, hbound⟩ := he
  refine (gives_reachKey hs hk htext).bind fun _ s₁ ⟨hs₁, hgrows₁, hknown₁⟩ => ?_
  refine (gives_reach hs₁ hneat hsize hbound).bind fun _ s₂ ⟨hs₂, hgrows₂, hknown₂⟩ => .get ?_
  have hgrows := hgrows₁.trans hgrows₂
  have hfound₂ : ∀ e ∈ found, IsKnownText g s₂ e.1 := fun e he =>
    ⟨(hfound e he).1, hgrows _ (hfound e he).2⟩
  have hkey : IsKnownText g s₂ e.1 := ⟨htext, hgrows₂ _ hknown₁⟩
  exact .pure ⟨hs₂, hgrows, hs₂.putPair_eq hfound₂ hkey,
    forall_mem_putPair (P := IsKnownText g s₂) hfound₂ hkey s₂, hkey.2, hknown₂⟩

theorem gives_putAll (hs : Underway g todo bound s) {found pairs : List Pair}
    (hfound : ∀ e ∈ found, IsKnownText g s e.1) (h : ∀ e ∈ pairs, ReachablePair g bound e) :
    Gives (fun found' s' => Underway g todo bound s' ∧ s.Grows s' ∧
      found' = pairs.foldl (fun found e => g.put found e.1 e.2) found ∧
        ∀ e ∈ pairs, s'.Knows e.1 ∧ s'.Knows e.2) s (pairs.foldlM putting found) := by
  induction pairs generalizing s found with
  | nil => exact .pure ⟨hs, .refl s, rfl, by simp⟩
  | cons e pairs ih =>
    obtain ⟨he, hpairs⟩ := List.forall_mem_cons.1 h
    rw [List.foldlM_cons]
    refine (gives_putting hs hfound he).bind fun found₁ s₁ h₁ => ?_
    obtain ⟨hs₁, hgrows₁, rfl, hfound₁, hknown₁⟩ := h₁
    refine (ih hs₁ hfound₁ hpairs).mono fun found₂ s₂ ⟨hs₂, hgrows₂, hfound₂, hall⟩ => ?_
    exact ⟨hs₂, hgrows₁.trans hgrows₂, hfound₂, List.forall_mem_cons.2
      ⟨⟨hgrows₂ _ hknown₁.1, hgrows₂ _ hknown₁.2⟩, hall⟩⟩

/-- Merging leaves a neat mapping as it is. -/
theorem gives_mergedPairs (hs : Underway g todo bound s) {n : Nat} {pairs : List Pair}
    (hbody : g.body n = .map pairs) (hkeys : ∀ e ∈ pairs, g.IsText e.1) :
    Gives (fun found s' => found = pairs ∧ s' = s) s (mergedPairs n) := by
  have hgraph := hs.graph
  subst hgraph
  have hmerge := Graph.run_mergedPairs hbody hkeys
  exact .get (Gives.bind (p := fun found s' => found = (pairs, s.graph) ∧ s' = s)
    (.lift hmerge ⟨rfl, rfl⟩) fun found s' ⟨hfound, hs'⟩ => by
      subst hfound hs'
      exact ⟨rfl, rfl⟩)

/-- What waited waits no more when its datum is noted. -/
theorem gives_note {n : Nat} {tag : Tag} (hs : Underway g ((n, tag) :: todo) bound s)
    {datum : Datum} (hdatum : Settled g s n datum) :
    Gives (fun _ s' => Underway g todo bound s' ∧ s.Grows s') s (note n datum) := by
  have hn : n < g.size := (hs.waiting (n, tag) (by simp)).1
  have hother : ∀ e ∈ (n, tag) :: todo, e.1 ≠ n → e ∈ todo := fun e he hne =>
    List.mem_of_ne_of_mem (fun heq => hne (congrArg Prod.fst heq)) he
  exact ⟨hs.noted hn (List.subset_cons_self ..) hother (.inl hdatum), (grows_noted hs.size hn _).1⟩

/-- A list that waited has its items. -/
theorem gives_openSeq {n : Nat} {tag : Tag} (hs : Underway g ((n, tag) :: todo) bound s)
    {items : List Nat} (hbody : g.body n = .seq items)
    (hitems : ∀ m ∈ items, Reachable g bound m) :
    Gives (fun _ s' => Underway g todo bound s' ∧ s.Grows s') s
      (do items.forM reach; note n (.list items)) := by
  refine (gives_reachAll hs hitems).bind fun _ s₁ ⟨hs₁, hgrows₁, hall⟩ => ?_
  have hsettled : Settled g s₁ n (.list items) :=
    ⟨by simp [Graph.Means, hbody], by simpa [Graph.parts, hbody] using hall⟩
  exact (gives_note hs₁ hsettled).mono fun _ s₂ ⟨hs₂, hgrows₂⟩ => ⟨hs₂, hgrows₁.trans hgrows₂⟩

/-- A mapping that waited has its pairs. -/
theorem gives_openMap {n : Nat} {tag : Tag} (hs : Underway g ((n, tag) :: todo) bound s)
    {pairs : List Pair} (hbody : g.body n = .map pairs)
    (hpairs : ∀ e ∈ pairs, ReachablePair g bound e) :
    Gives (fun _ s' => Underway g todo bound s' ∧ s.Grows s') s
      (do let found ← (← mergedPairs n).foldlM putting []; note n (.map found)) := by
  refine (gives_mergedPairs hs hbody fun e he => (hpairs e he).1.2).bind fun _ _ h₁ => ?_
  obtain ⟨rfl, rfl⟩ := h₁
  refine (gives_putAll hs (List.forall_mem_nil _) hpairs).bind fun found s₁ h₁ => ?_
  obtain ⟨hs₁, hgrows₁, rfl, hall⟩ := h₁
  have hparts : ∀ m ∈ g.parts n, s₁.Knows m := fun m hm => by
    simp only [Graph.parts, hbody, List.mem_flatMap, List.mem_cons, List.not_mem_nil,
      or_false] at hm
    obtain ⟨e, he, rfl | rfl⟩ := hm
    · exact (hall e he).1
    · exact (hall e he).2
  exact (gives_note hs₁ ⟨by rw [Graph.Means, hbody], hparts⟩).mono fun _ s₂ ⟨hs₂, hgrows₂⟩ =>
    ⟨hs₂, hgrows₁.trans hgrows₂⟩

/-- **A container that waited has its parts.** -/
theorem gives_openOne (hneat : ∀ n < g.size, g.Neat n) {n : Nat} {tag : Tag}
    (hs : Underway g ((n, tag) :: todo) bound s) (hbound : bound ≤ n + 1) :
    Gives (fun _ s' => Underway g todo bound s' ∧ s.Grows s') s (openOne n tag) := by
  obtain ⟨hn, htag, hcontainer⟩ := hs.waiting (n, tag) (by simp)
  dsimp only at hn htag hcontainer
  have hnode := hneat n hn
  unfold Graph.Neat at hnode
  have hreachable : ∀ {m}, g.Behind n m → Reachable g bound m := fun hm =>
    ⟨hneat _ hm.2, hm.2, hbound.trans hm.1⟩
  refine .get ?_
  rw [hs.graph]
  cases hbody : g.body n with
  | scalar text =>
    rw [hbody] at hnode
    obtain ⟨v, hv⟩ := hnode
    rw [htag] at hv
    rcases hcontainer with rfl | rfl <;> cases hv
  | seq items =>
    rw [hbody] at hnode
    obtain ⟨htag', hitems⟩ := hnode
    obtain rfl : tag = .seq := htag.symm.trans htag'
    exact gives_openSeq hs hbody fun m hm => hreachable (hitems m hm)
  | map pairs =>
    rw [hbody] at hnode
    obtain ⟨htag', hpairs⟩ := hnode
    obtain rfl : tag = .map := htag.symm.trans htag'
    exact gives_openMap hs hbody fun e he =>
      ⟨⟨hreachable (hpairs e he).1.1, (hpairs e he).1.2⟩, hreachable (hpairs e he).2⟩

theorem gives_openLevel (hneat : ∀ n < g.size, g.Neat n) {level : List (Nat × Tag)}
    (hs : Underway g level bound s) (hbound : ∀ e ∈ level, bound ≤ e.1 + 1) :
    Gives (fun _ s' => Underway g [] bound s' ∧ s.Grows s') s
      (level.forM fun e => openOne e.1 e.2) := by
  induction level generalizing s with
  | nil => exact .pure ⟨hs, .refl s⟩
  | cons e level ih =>
    obtain ⟨he, hlevel⟩ := List.forall_mem_cons.1 hbound
    change Gives _ s (openOne e.1 e.2 >>= fun _ => level.forM fun e => openOne e.1 e.2)
    refine (gives_openOne hneat hs he).bind fun _ s₁ ⟨hs₁, hgrows₁⟩ => ?_
    exact (ih hs₁ hlevel).mono fun _ s₂ ⟨hs₂, hgrows₂⟩ => ⟨hs₂, hgrows₁.trans hgrows₂⟩

/-- **A search that is over**: what is known has its datum in the end, and its parts are known. -/
structure Complete (g : Graph) (s : Search) : Prop where
  size : s.data.size = g.size
  settled : ∀ n datum, s.datum? n = some datum → Settled g s n datum

theorem Underway.complete (hs : Underway g [] bound s) (hpending : s.pending = []) :
    Complete g s where
  size := hs.size
  settled n datum h := (hs.known n datum h).resolve_right (by simp [hpending])

/-- **Level by level nothing fails**: what waits has a number from the count of levels on, so that
there are no more levels than nodes. -/
theorem gives_openAll (hneat : ∀ n < g.size, g.Neat n) {fuel : Nat} (hs : Underway g [] bound s)
    (hfuel : g.size ≤ bound + fuel) :
    Gives (fun _ s' => Complete g s' ∧ s.Grows s') s (openAll fuel) := by
  induction fuel generalizing s bound with
  | zero =>
    refine .pure ⟨hs.complete (List.eq_nil_iff_forall_not_mem.2 fun e he => ?_), .refl s⟩
    have hlt := (hs.waiting e (List.mem_append_right _ he)).1
    have hle := hs.bound e he
    omega
  | succ fuel ih =>
    refine .get ?_
    dsimp only
    split
    · rename_i hempty
      rw [List.isEmpty_iff, List.reverse_eq_nil_iff] at hempty
      exact .pure ⟨hs.complete hempty, .refl s⟩
    have hlevel : Underway g s.pending.reverse (bound + 1) { s with pending := [] } :=
      { graph := hs.graph
        size := hs.size
        known := fun n datum h => (hs.known n datum h).imp_right fun hmem => by simpa using hmem
        waiting := fun e he => hs.waiting e (by simpa using he)
        bound := by simp }
    have hopened := gives_openLevel hneat hlevel fun e he =>
      Nat.succ_le_succ (hs.bound e (List.mem_reverse.1 he))
    change Gives _ { s with pending := [] }
      ((s.pending.reverse.forM fun e => openOne e.1 e.2) >>= fun _ => openAll fuel)
    refine hopened.bind fun _ s₁ ⟨hs₁, hgrows₁⟩ => ?_
    exact (ih hs₁ (by omega)).mono fun _ s₂ ⟨hs₂, hgrows₂⟩ => ⟨hs₂, hgrows₁.trans hgrows₂⟩

end Search

/-! ## Laid-out nodes in a graph -/

namespace Graph

/-- Nodes in a row, from a number on. -/
def Holds (g : Graph) (n : Nat) (nodes : List Node) : Prop :=
  ∃ before after, g.nodes.toList = before ++ (nodes ++ after) ∧ before.length = n

namespace Holds

variable {n : Nat} {nodes nodes' : List Node} {nd : Node}

theorem left (h : g.Holds n (nodes ++ nodes')) : g.Holds n nodes := by
  obtain ⟨before, after, heq, hlength⟩ := h
  exact ⟨before, nodes' ++ after, by rw [heq, List.append_assoc], hlength⟩

theorem right (h : g.Holds n (nodes ++ nodes')) : g.Holds (n + nodes.length) nodes' := by
  obtain ⟨before, after, heq, hlength⟩ := h
  exact ⟨before ++ nodes, after, by simp [heq], by simp [hlength]⟩

theorem tail (h : g.Holds n (nd :: nodes)) : g.Holds (n + 1) nodes := by
  rw [← List.singleton_append] at h
  exact h.right

theorem head (h : g.Holds n (nd :: nodes)) : g.Holds n [nd] := by
  rw [← List.singleton_append] at h
  exact h.left

theorem le_size (h : g.Holds n nodes) : n + nodes.length ≤ g.size := by
  obtain ⟨before, after, heq, rfl⟩ := h
  rw [size, ← Array.length_toList, heq]
  simp

theorem node_eq (h : g.Holds n (nd :: nodes)) : g.node n = nd := by
  obtain ⟨before, after, heq, rfl⟩ := h
  have hnode : g.nodes.toList[before.length]? = some nd := by simp [heq]
  rw [Array.getElem?_toList] at hnode
  simp [node, hnode]

theorem tag_eq (h : g.Holds n (nd :: nodes)) : g.tag n = nd.tag := by rw [tag, h.node_eq]

theorem body_eq (h : g.Holds n (nd :: nodes)) : g.body n = nd.body := by rw [body, h.node_eq]

end Holds

end Graph

/-- The numbers that a body holds, all of them among so many from a number on; keys are texts. -/
def Body.Within (g : Graph) (n count : Nat) : Body → Prop
  | .scalar _ => True
  | .seq items => ∀ m ∈ items, n ≤ m ∧ m < n + count
  | .map pairs => ∀ e ∈ pairs, ((n ≤ e.1 ∧ e.1 < n + count) ∧ g.IsText e.1) ∧
      n ≤ e.2 ∧ e.2 < n + count

/-- There is a node for data. -/
def Form.Needs : Form → Nat → Prop
  | .data _, count => 0 < count
  | _, _ => True

theorem Body.Within.mono {n n' count count' : Nat} {body : Body} (h : body.Within g n count)
    (hn : n' ≤ n) (hcount : n + count ≤ n' + count') : body.Within g n' count' := by
  cases body with
  | scalar text => trivial
  | seq items =>
    intro m hm
    have := h m hm
    omega
  | map pairs =>
    intro e he
    obtain ⟨⟨hk, htext⟩, hv⟩ := h e he
    exact ⟨⟨by omega, htext⟩, by omega⟩

namespace Graph

variable {n : Nat} {nodes : List Node}

/-- Nodes in a row, so many from a number on, that are neat. -/
def NeatRow (g : Graph) (n count : Nat) : Prop := ∀ m, n ≤ m → m < n + count → g.Neat m

theorem NeatRow.nil (n : Nat) : g.NeatRow n 0 := fun m hm hm' => by omega

theorem NeatRow.cons {count : Nat} (h : g.Neat n) (hrest : g.NeatRow (n + 1) count) :
    g.NeatRow n (count + 1) := by
  intro m hm hm'
  rcases Nat.eq_or_lt_of_le hm with rfl | hm
  · exact h
  · exact hrest m hm (by omega)

theorem NeatRow.append {count count' : Nat} (h : g.NeatRow n count)
    (h' : g.NeatRow (n + count) count') : g.NeatRow n (count + count') := by
  intro m hm hm'
  by_cases hlt : m < n + count
  · exact h m hm hlt
  · exact h' m (by omega) (by omega)

/-- A scalar that can be read is neat. -/
theorem Holds.neat_scalar {tag : Tag} {text : List Point} {v : Value}
    (hat : g.Holds n (⟨tag, .scalar text⟩ :: nodes)) (hv : tag.read text = .ok v) : g.Neat n := by
  rw [Neat, hat.body_eq, hat.tag_eq]
  exact ⟨v, hv⟩

/-- A list in front of its items is neat. -/
theorem Holds.neat_seq {items : List Nat} (hat : g.Holds n (⟨.seq, .seq items⟩ :: nodes))
    (h : (Body.seq items).Within g (n + 1) nodes.length) : g.Neat n := by
  have hsize := hat.le_size
  rw [List.length_cons] at hsize
  rw [Neat, hat.body_eq, hat.tag_eq]
  refine ⟨rfl, fun m hm => ?_⟩
  have := h m hm
  exact ⟨by omega, by omega⟩

/-- A mapping in front of its keys and values is neat. -/
theorem Holds.neat_map {pairs : List Pair} (hat : g.Holds n (⟨.map, .map pairs⟩ :: nodes))
    (h : (Body.map pairs).Within g (n + 1) nodes.length) : g.Neat n := by
  have hsize := hat.le_size
  rw [List.length_cons] at hsize
  rw [Neat, hat.body_eq, hat.tag_eq]
  refine ⟨rfl, fun e he => ?_⟩
  obtain ⟨⟨hk, htext⟩, hv⟩ := h e he
  exact ⟨⟨⟨by omega, by omega⟩, htext⟩, by omega, by omega⟩

end Graph

/-- **The nodes of laid-out data are neat.** -/
theorem Laid.neat {form : Form} {n : Nat} {body : Body} {nodes : List Node}
    (h : Laid form n body nodes) (hat : g.Holds n nodes) :
    form.Needs nodes.length ∧ body.Within g n nodes.length ∧ g.NeatRow n nodes.length := by
  induction h with
  | word h => exact ⟨Nat.one_pos, trivial, .cons (hat.neat_scalar h) (.nil _)⟩
  | quoted text n => exact ⟨Nat.one_pos, trivial, .cons (hat.neat_scalar rfl) (.nil _)⟩
  | array h ih =>
    obtain ⟨-, hwithin, hneat⟩ := ih hat.tail
    rw [List.length_cons]
    exact ⟨Nat.succ_pos _, hwithin.mono (by omega) (by omega), .cons (hat.neat_seq hwithin) hneat⟩
  | noItems n => exact ⟨trivial, List.forall_mem_nil _, .nil n⟩
  | item h h' ih ih' =>
    obtain ⟨hneeds, -, hneat⟩ := ih hat.left
    obtain ⟨-, hwithin, hneat'⟩ := ih' hat.right
    change 0 < _ at hneeds
    rw [List.length_append]
    exact ⟨trivial, List.forall_mem_cons.2 ⟨by omega, hwithin.mono (by omega) (by omega)⟩,
      hneat.append hneat'⟩
  | object h ih =>
    obtain ⟨-, hwithin, hneat⟩ := ih hat.tail
    rw [List.length_cons]
    exact ⟨Nat.succ_pos _, hwithin.mono (by omega) (by omega), .cons (hat.neat_map hwithin) hneat⟩
  | noMembers n => exact ⟨trivial, List.forall_mem_nil _, .nil n⟩
  | @member j ms n body pairs nodes nodes' name h h' ih ih' =>
    have hat' : g.Holds (n + 1) (nodes ++ nodes') := hat.tail
    obtain ⟨hneeds, -, hneat⟩ := ih hat'.left
    obtain ⟨-, hwithin, hneat'⟩ := ih' hat'.right
    change 0 < _ at hneeds
    rw [List.length_cons, List.length_append]
    have hkey : g.IsText n := ⟨hat.tag_eq, name, hat.body_eq⟩
    refine ⟨trivial, ?_, .cons (hat.neat_scalar rfl) (hneat.append hneat')⟩
    exact List.forall_mem_cons.2 ⟨⟨⟨by omega, hkey⟩, by omega⟩,
      Body.Within.mono hwithin (by omega) (by omega)⟩

/-! ## The value of laid-out nodes -/

namespace Search

variable {s : Search}

/-- A value without ways back, as a search finds it. -/
def whole (v : Value) : Value × List Nat := (v, [])

/-- A pair whose key and value are found as those of an entry; the key is a text. -/
def Yields (g : Graph) (s : Search) (fuel : Nat) (around : List Nat) (e : Pair)
    (entry : Value × Value) : Prop :=
  (∃ text, g.body e.1 = .scalar text ∧ entry.1 = .str (.ofList text)) ∧
    s.value fuel around e.1 = whole entry.1 ∧ s.value fuel around e.2 = whole entry.2

/-- Equal keys are put in the same place. -/
theorem yields_put {fuel : Nat} {around : List Nat} {found : List Pair}
    {entries : List (Value × Value)} (h : List.Forall₂ (Yields g s fuel around) found entries)
    {e : Pair} {entry : Value × Value} (he : Yields g s fuel around e entry) :
    List.Forall₂ (Yields g s fuel around) (g.put found e.1 e.2)
      (Value.put entries entry.1 entry.2) := by
  induction h with
  | nil => exact .cons he .nil
  | @cons e' entry' found entries he' hrest ih =>
    obtain ⟨⟨text, hbody, hkey⟩, -, hvalue⟩ := he
    obtain ⟨⟨text', hbody', hkey'⟩, hfound', hvalue'⟩ := id he'
    have hsame : entry'.1.same entry.1 = decide (text' = text) := by
      simp [hkey, hkey', Value.same]
    rw [Graph.put, Value.put, hbody, hbody', hsame]
    by_cases heq : text' = text
    · rw [if_pos (by rw [heq]), if_pos (by simpa using heq)]
      exact .cons ⟨⟨text', hbody', hkey'⟩, hfound', hvalue⟩ hrest
    · rw [if_neg (by simpa using heq), if_neg (by simpa using heq)]
      exact .cons he' ih

theorem yields_putAll {fuel : Nat} {around : List Nat} {pairs found : List Pair}
    {more entries : List (Value × Value)} (h : List.Forall₂ (Yields g s fuel around) pairs more)
    (hfound : List.Forall₂ (Yields g s fuel around) found entries) :
    List.Forall₂ (Yields g s fuel around)
      (pairs.foldl (fun found e => g.put found e.1 e.2) found)
      (more.foldl (fun es e => Value.put es e.1 e.2) entries) := by
  induction h generalizing found entries with
  | nil => exact hfound
  | cons he _ ih => exact ih (yields_put hfound he)

theorem Complete.datum?_eq (hs : Complete g s) {n : Nat} (hn : s.Knows n) :
    ∃ datum, s.datum? n = some datum ∧ Settled g s n datum := by
  obtain ⟨datum, hdatum⟩ := Option.isSome_iff_exists.1 hn
  exact ⟨datum, hdatum, hs.settled n datum hdatum⟩

@[simp] theorem map_fst_whole (vs : List Value) : (vs.map whole).map Prod.fst = vs := by
  simp [whole, Function.comp_def]

@[simp] theorem flatMap_snd_whole (vs : List Value) : (vs.map whole).flatMap Prod.snd = [] := by
  simp [whole, List.flatMap_map]

/-- The pairs of a mapping as they are found. -/
theorem map_yields {fuel : Nat} {around : List Nat} {pairs : List Pair}
    {entries : List (Value × Value)} (h : List.Forall₂ (Yields g s fuel around) pairs entries) :
    (pairs.map fun e => (s.value fuel around e.1, s.value fuel around e.2))
      = entries.map fun e => (whole e.1, whole e.2) := by
  induction h with
  | nil => rfl
  | cons he _ ih => rw [List.map_cons, List.map_cons, he.2.1, he.2.2, ih]

theorem labelled_whole (n : Nat) (v : Value) {leads : List Nat} (h : leads = []) :
    labelled n v leads = whole v := by
  subst h
  rfl

end Search

open Search

/-- What is found for laid-out nodes, inside containers. -/
def Form.Found (g : Graph) (s : Search) (fuel : Nat) (around : List Nat) (n : Nat) (body : Body) :
    Form → Prop
  | .data j => s.Knows n → s.value fuel around n = whole j.toValue
  | .items js => ∀ items, body = .seq items → (∀ m ∈ items, s.Knows m) →
      items.map (s.value fuel around) = (Json.toItems js).map whole
  | .member _ => True
  | .members ms => ∀ pairs, body = .map pairs → (∀ e ∈ pairs, s.Knows e.1 ∧ s.Knows e.2) →
      List.Forall₂ (Yields g s fuel around) pairs (Json.toEntries ms)

section Value

variable {s : Search} {n : Nat} {around : List Nat}

/-- What lies behind all containers around it is none of them. -/
theorem not_around (haround : ∀ m ∈ around, m < n) : ¬ around.contains n = true := fun h =>
  Nat.lt_irrefl n (haround n (List.contains_iff_mem.1 h))

/-- Parts lie behind the container as well, so behind all containers around them. -/
theorem around_parts (haround : ∀ m ∈ around, m < n) : ∀ m ∈ n :: around, m < n + 1 :=
  List.forall_mem_cons.2 ⟨Nat.lt_succ_self n, fun m hm => Nat.lt_succ_of_lt (haround m hm)⟩

/-- A scalar is found as it reads. -/
theorem value_scalar (fuel : Nat) (hs : Complete g s) {tag : Tag} {text : List Point} {v : Value}
    (hat : g.Holds n [⟨tag, .scalar text⟩]) (haround : ∀ m ∈ around, m < n)
    (hv : tag.read text = .ok v) (hknown : s.Knows n) :
    s.value (fuel + 1) around n = whole v := by
  obtain ⟨datum, hdatum, hmeans, -⟩ := hs.datum?_eq hknown
  rw [Graph.Means, hat.body_eq, hat.tag_eq] at hmeans
  obtain ⟨v', hv', rfl⟩ := hmeans
  obtain rfl : v = v' := Except.ok.inj (hv.symm.trans hv')
  rw [value, if_neg (not_around haround), hdatum]
  rfl

/-- An array is found as its items are. -/
theorem value_array {fuel : Nat} (hs : Complete g s) {items : List Nat} {nodes : List Node}
    {js : List Json} (hat : g.Holds n (⟨.seq, .seq items⟩ :: nodes))
    (haround : ∀ m ∈ around, m < n)
    (hitems : (∀ m ∈ items, s.Knows m) →
      items.map (s.value fuel (n :: around)) = (Json.toItems js).map whole)
    (hknown : s.Knows n) : s.value (fuel + 1) around n = whole (Json.array js).toValue := by
  obtain ⟨datum, hdatum, hmeans, hparts⟩ := hs.datum?_eq hknown
  rw [Graph.Means, hat.body_eq] at hmeans
  obtain rfl : datum = .list items := hmeans
  rw [Graph.parts, hat.body_eq] at hparts
  rw [value, if_neg (not_around haround), hdatum]
  dsimp only
  rw [hitems hparts, map_fst_whole, labelled_whole _ _ (flatMap_snd_whole _), Json.toValue]

/-- An object is found as its members are. -/
theorem value_object {fuel : Nat} (hs : Complete g s) {pairs : List Pair} {nodes : List Node}
    {ms : List (Text × Json)} (hat : g.Holds n (⟨.map, .map pairs⟩ :: nodes))
    (haround : ∀ m ∈ around, m < n)
    (hpairs : (∀ e ∈ pairs, s.Knows e.1 ∧ s.Knows e.2) →
      List.Forall₂ (Yields g s fuel (n :: around)) pairs (Json.toEntries ms))
    (hknown : s.Knows n) : s.value (fuel + 1) around n = whole (Json.object ms).toValue := by
  obtain ⟨datum, hdatum, hmeans, hparts⟩ := hs.datum?_eq hknown
  rw [Graph.Means, hat.body_eq] at hmeans
  dsimp only at hmeans
  rw [Graph.parts, hat.body_eq] at hparts
  have hput := yields_putAll (hpairs fun e he =>
    ⟨hparts _ (List.mem_flatMap.2 ⟨e, he, by simp⟩),
      hparts _ (List.mem_flatMap.2 ⟨e, he, by simp⟩)⟩) .nil
  subst hmeans
  rw [value, if_neg (not_around haround), hdatum]
  dsimp only
  rw [map_yields hput, List.map_map, labelled_whole _ _ (by simp [whole, List.flatMap_map])]
  simp [whole, Json.toValue, Value.ofEntries, Function.comp_def]

end Value

/-- There is fuel for every node. -/
theorem Graph.Holds.exists_fuel {n : Nat} {nd : Node} {nodes : List Node}
    (hat : g.Holds n (nd :: nodes)) {fuel : Nat} (hfuel : g.size < fuel + n) :
    ∃ k, fuel = k + 1 := by
  have hsize := hat.le_size
  rw [List.length_cons] at hsize
  exact ⟨fuel - 1, by omega⟩

/-- **The value found for laid-out data is the data**, inside containers in front of them. -/
theorem Laid.found {s : Search} (hs : Complete g s) {form : Form} {n : Nat} {body : Body}
    {nodes : List Node} (h : Laid form n body nodes) (hat : g.Holds n nodes) {around : List Nat}
    (haround : ∀ m ∈ around, m < n) {fuel : Nat} (hfuel : g.size < fuel + n) :
    form.Found g s fuel around n body := by
  induction h generalizing around fuel with
  | word h =>
    intro hknown
    obtain ⟨fuel, rfl⟩ := hat.exists_fuel hfuel
    exact value_scalar fuel hs hat haround h hknown
  | quoted text n =>
    intro hknown
    obtain ⟨fuel, rfl⟩ := hat.exists_fuel hfuel
    exact value_scalar fuel hs hat haround rfl hknown
  | @array js n items nodes h ih =>
    intro hknown
    obtain ⟨fuel, rfl⟩ := hat.exists_fuel hfuel
    have hfuel' : g.size < fuel + (n + 1) := by omega
    have hitems := ih hat.tail (around_parts haround) hfuel' items rfl
    exact value_array hs hat haround hitems hknown
  | noItems n =>
    intro items hitems _
    obtain rfl : [] = items := Body.seq.inj hitems
    rfl
  | @item j js n body items nodes nodes' h h' ih ih' =>
    intro items' hitems hknown
    obtain rfl : n :: items = items' := Body.seq.inj hitems
    obtain ⟨hn, hknown⟩ := List.forall_mem_cons.1 hknown
    have haround' : ∀ m ∈ around, m < n + nodes.length := fun m hm =>
      Nat.lt_of_lt_of_le (haround m hm) (Nat.le_add_right ..)
    have hfuel' : g.size < fuel + (n + nodes.length) := by omega
    have hfirst := ih hat.left haround hfuel hn
    have hrest := ih' hat.right haround' hfuel' items rfl hknown
    rw [List.map_cons, hfirst, hrest]
    rfl
  | @object ms n pairs nodes h ih =>
    intro hknown
    obtain ⟨fuel, rfl⟩ := hat.exists_fuel hfuel
    have hfuel' : g.size < fuel + (n + 1) := by omega
    have hpairs := ih hat.tail (around_parts haround) hfuel' pairs rfl
    exact value_object hs hat haround hpairs hknown
  | noMembers n =>
    intro pairs hpairs _
    obtain rfl : [] = pairs := Body.map.inj hpairs
    exact .nil
  | @member j ms n body pairs nodes nodes' name h h' ih ih' =>
    intro pairs' hpairs hknown
    obtain rfl : (n, n + 1) :: pairs = pairs' := Body.map.inj hpairs
    obtain ⟨⟨hkey, hvalue⟩, hknown⟩ := List.forall_mem_cons.1 hknown
    obtain ⟨fuel, rfl⟩ := hat.exists_fuel hfuel
    have hat' : g.Holds (n + 1) (nodes ++ nodes') := hat.tail
    have behind : ∀ count, ∀ m ∈ around, m < n + 1 + count := fun count m hm =>
      Nat.lt_of_lt_of_le (haround m hm) (by omega)
    have hfuel' : ∀ count, g.size < fuel + 1 + (n + 1 + count) := by omega
    have hname := value_scalar fuel hs hat.head haround rfl hkey
    have hfirst := ih hat'.left (behind 0) (hfuel' 0) hvalue
    have hrest := ih' hat'.right (behind nodes.length) (hfuel' nodes.length) pairs rfl hknown
    exact .cons ⟨⟨name, hat.body_eq, rfl⟩, hname, hfirst⟩ hrest

/-- **What laid-out data denote.** -/
theorem content_laid {j : Json} {body : Body} {nodes : List Node}
    (h : Laid (.data j) 0 body nodes) : (⟨nodes.toArray⟩ : Graph).content 0 = .ok j.toValue := by
  have hat : Graph.Holds ⟨nodes.toArray⟩ 0 nodes := ⟨[], [], by simp, rfl⟩
  obtain ⟨hneeds, -, hneat⟩ := h.neat hat
  generalize hg : (⟨nodes.toArray⟩ : Graph) = g at *
  have hsize : g.size = nodes.length := by simp [← hg, Graph.size]
  have hstart : Underway g [] 0 ⟨g, Array.replicate g.size none, []⟩ :=
    { graph := rfl
      size := Array.size_replicate
      known := fun n datum hn => by
        rw [datum?_start] at hn
        cases hn
      waiting := by simp
      bound := by simp }
  have hneat : ∀ n < g.size, g.Neat n := fun n hn => hneat n (Nat.zero_le n) (by omega)
  have hzero : 0 < g.size := hsize ▸ hneeds
  have hsearch : Gives (fun _ s' => Complete g s' ∧ s'.Knows 0)
      ⟨g, Array.replicate g.size none, []⟩
      (do reach 0; openAll (g.size + 1)) := by
    refine (gives_reach hstart (hneat 0 hzero) hzero (Nat.le_refl 0)).bind fun _ s₁ hs₁ => ?_
    refine (gives_openAll hneat hs₁.1 (by omega)).mono fun _ s₂ hs₂ => ?_
    exact ⟨hs₂.1, hs₂.2 0 hs₁.2.2⟩
  unfold Gives at hsearch
  unfold Graph.content
  dsimp only
  rcases hrun : (do reach 0; openAll (g.size + 1) : Searching Unit).run
      ⟨g, Array.replicate g.size none, []⟩ with cause | ⟨_, s⟩ <;> rw [hrun] at hsearch
  · exact hsearch.elim
  · have hfuel : g.size < g.size + 1 + 0 := Nat.lt_succ_self _
    have hvalue := h.found hsearch.1 hat (List.forall_mem_nil _) hfuel hsearch.2
    change Except.ok (s.value (g.size + 1) [] 0).1 = _
    rw [hvalue]
    rfl

/-- **A text that stands for data reads as the data.** -/
theorem Spells.read {j : Json} {cs : List Char} (h : Spells flow (.data j) (unifyBreaks cs))
    (hallowed : cs.all isAllowed = true) (hlevels : j.levels ≤ Draft.nestingLimit) :
    Yaml.read cs = .ok j.toValue := by
  obtain ⟨ts, hwrites, hscan⟩ := h.scan hallowed
  obtain ⟨body, nodes, hlaid, hgraph⟩ := hwrites.ofTokens hlevels
  rw [Yaml.read, hscan, valueOf, hgraph]
  exact content_laid hlaid

end LintBundle.Yaml
