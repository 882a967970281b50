import LintBundle.Yaml.Node.Grammar

/-!
# Proofs/Drafting — what the nodes of a document have to do with its tokens

    tokens ──Grammar──▸ nodes        the scalars among both are the same, in the same order

Every function of the grammar takes tokens from the front and adds nodes at the end.  Where no tag
is among the tokens it takes, the nodes it adds tell the tokens (`Tells`): the scalars are those of
the tokens, a plain one with the tag of its spelling and any other one a text, and a collection has
the tag of its form.  Where it fails, the tokens cannot stand as they do, lie too deep in one
another, or end where the text cannot be read (`Refuses`).

Both facts are one statement (`Reads`), which is kept by putting steps together; so the walk through
the grammar is an induction on its fuel with a line or two for each way a form can go on.
-/

namespace LintBundle.Yaml

variable {α β : Type}

/-! ## Scalars of tokens and of nodes -/

/-- A scalar that stands in the text, and is not the node of an empty place. -/
def Node.isWritten (node : Node) : Bool :=
  match node.body with
  | .scalar _ => node ≠ .empty
  | _ => false

/-- A collection with the tag of its form. -/
def Node.HasForm (node : Node) : Prop :=
  match node.body with
  | .scalar _ => True
  | .seq _ => node.tag = .seq
  | .map _ => node.tag = .map

/-- The node of a scalar that has no tag of its own. -/
def Token.node? : Token → Option Node
  | .scalar text isPlain =>
    some ⟨if isPlain then Tag.ofSpelling (Text.shapes text) else .str, .scalar text⟩
  | _ => none

/-- **The scalars that tokens write**, in order. -/
def Token.scalars (ts : List Token) : List Node :=
  (ts.filterMap Token.node?).filter Node.isWritten

/-- Tokens among which there is no tag. -/
def Token.Untagged (ts : List Token) : Prop := ∀ handle suffix, .tag handle suffix ∉ ts

/-- **Nodes that tell tokens**: the scalars among them are the same. -/
structure Tells (ts : List Token) (nodes : List Node) : Prop where
  scalars : nodes.filter Node.isWritten = Token.scalars ts
  form : ∀ node ∈ nodes, node.HasForm

@[simp] theorem Token.scalars_append (ts us : List Token) :
    Token.scalars (ts ++ us) = Token.scalars ts ++ Token.scalars us := by
  simp [Token.scalars, List.filterMap_append, List.filter_append]

theorem Token.Untagged.left {ts us : List Token} (h : Untagged (ts ++ us)) : Untagged ts :=
  fun handle suffix mem => h handle suffix (List.mem_append_left _ mem)

theorem Token.Untagged.right {ts us : List Token} (h : Untagged (ts ++ us)) : Untagged us :=
  fun handle suffix mem => h handle suffix (List.mem_append_right _ mem)

theorem Token.Untagged.tail {t : Token} {ts : List Token} (h : Untagged (t :: ts)) : Untagged ts :=
  fun handle suffix mem => h handle suffix (List.mem_cons_of_mem _ mem)

theorem Tells.nil : Tells [] [] where
  scalars := rfl
  form := by simp

theorem Tells.append {ts us : List Token} {nodes more : List Node} (h : Tells ts nodes)
    (h' : Tells us more) : Tells (ts ++ us) (nodes ++ more) where
  scalars := by rw [List.filter_append, h.scalars, h'.scalars, Token.scalars_append]
  form := by
    intro node hnode
    rcases List.mem_append.1 hnode with hnode | hnode
    · exact h.form node hnode
    · exact h'.form node hnode

/-- The node of an empty place tells nothing. -/
theorem tells_empty : Tells [] [.empty] where
  scalars := rfl
  form := by simp [Node.HasForm, Node.empty]

/-- A collection tells what its parts tell. -/
theorem Tells.collection {ts : List Token} {nodes : List Node} (h : Tells ts nodes) {node : Node}
    (form : node.HasForm) (isWritten : node.isWritten = false) : Tells ts (node :: nodes) where
  scalars := by rw [List.filter_cons_of_neg (by simp [isWritten]), h.scalars]
  form := List.forall_mem_cons.2 ⟨form, h.form⟩

/-- A scalar without a tag tells its token. -/
theorem tells_scalar (text : List Point) (isPlain : Bool) :
    Tells [.scalar text isPlain]
      [⟨if isPlain then Tag.ofSpelling (Text.shapes text) else .str, .scalar text⟩] where
  scalars := rfl
  form := by simp [Node.HasForm]

/-! ## Steps that read tokens -/

/-- **The faults of a grammar**: its own, or that of the place where the text cannot be read. -/
def Refuses (ts : List Token) (cause : TextFault) : Prop :=
  cause = .malformed ∨ cause = .tooDeep ∨ .unreadable cause ∈ ts

theorem Refuses.append {ts : List Token} {cause : TextFault} (h : Refuses ts cause)
    (used : List Token) : Refuses (used ++ ts) cause :=
  h.imp_right (.imp_right (List.mem_append_right used))

theorem refuses_refusal (ts : List Token) : Refuses ts (refusal ts) := by
  unfold refusal
  split
  · exact .inr (.inr (List.mem_cons_self ..))
  · exact .inl rfl

/-- The nodes that a step has added to a document, which tell the tokens it has taken. -/
def Adds (d d' : Draft) (used : List Token) : Prop :=
  ∃ nodes, d'.graph.nodes.toList = d.graph.nodes.toList ++ nodes ∧ Tells used nodes

theorem Adds.refl (d : Draft) : Adds d d [] := ⟨[], by simp, .nil⟩

theorem Adds.trans {d d' d'' : Draft} {used more : List Token} (h : Adds d d' used)
    (h' : Adds d' d'' more) : Adds d d'' (used ++ more) := by
  obtain ⟨nodes, heq, htells⟩ := h
  obtain ⟨nodes', heq', htells'⟩ := h'
  exact ⟨nodes ++ nodes', by rw [heq', heq, List.append_assoc], htells.append htells'⟩

/-- What becomes of tokens and a document: some tokens are taken from the front, and nodes are added
that tell them as long as no tag is among them and `plain` holds of what came before; or else the
fault is one of a grammar. -/
def Comes (plain : Prop) (ts : List Token) (d : Draft) :
    Except TextFault ((α × List Token) × Draft) → Prop
  | .ok ((_, rest), d') =>
    ∃ used, ts = used ++ rest ∧ (plain → Token.Untagged used → Adds d d' used)
  | .error cause => Refuses ts cause

/-- **A step that reads tokens**, from whatever document. -/
def Reads (plain : Prop) (ts : List Token) (x : Drafting (α × List Token)) : Prop :=
  ∀ d, Comes plain ts d (x.run d)

namespace Reads

variable {plain : Prop} {ts : List Token}

theorem done (a : α) : Reads plain ts (pure (a, ts)) :=
  fun d => ⟨[], rfl, fun _ _ => Adds.refl d⟩

theorem refused {cause : TextFault} (h : Refuses ts cause) :
    Reads plain ts (throw cause : Drafting (α × List Token)) := fun _ => h

theorem refusal : Reads plain ts (throw (refusal ts) : Drafting (α × List Token)) :=
  refused (refuses_refusal ts)

theorem malformed : Reads plain ts (throw TextFault.malformed : Drafting (α × List Token)) :=
  refused (.inl rfl)

/-- A step reads the tokens that the step before has left. -/
theorem bind {x : Drafting (α × List Token)} {g : α × List Token → Drafting (β × List Token)}
    (hx : Reads plain ts x) (hg : ∀ a rest, Reads plain rest (g (a, rest))) :
    Reads plain ts (x >>= g) := by
  intro d
  have h := hx d
  rw [StateT.run_bind]
  rcases hrun : x.run d with cause | ⟨⟨a, rest⟩, d₁⟩ <;> rw [hrun] at h
  · exact h
  obtain ⟨used, rfl, hadds⟩ := h
  have h := hg a rest d₁
  change Comes plain (used ++ rest) d ((g (a, rest)).run d₁)
  rcases hrun' : (g (a, rest)).run d₁ with cause | ⟨⟨b, rest'⟩, d'⟩ <;> rw [hrun'] at h
  · exact Refuses.append h used
  · obtain ⟨more, rfl, hmore⟩ := h
    refine ⟨used ++ more, (List.append_assoc ..).symm, fun hp hu => ?_⟩
    exact (hadds hp hu.left).trans (hmore hp hu.right)

/-- A token that is no scalar is taken without a trace. -/
theorem cons {x : Drafting (α × List Token)} (hx : Reads plain ts x) {t : Token}
    (ht : t.node? = none) : Reads plain (t :: ts) x := by
  intro d
  have h := hx d
  rcases hrun : x.run d with cause | ⟨⟨a, rest⟩, d'⟩ <;> rw [hrun] at h
  · exact Refuses.append h [t]
  · obtain ⟨used, rfl, hadds⟩ := h
    refine ⟨t :: used, rfl, fun hp hu => ?_⟩
    obtain ⟨nodes, heq, htells⟩ := hadds hp hu.tail
    refine ⟨nodes, heq, ?_, htells.form⟩
    rw [htells.scalars, Token.scalars, Token.scalars, List.filterMap_cons_none ht]

theorem mono {x : Drafting (α × List Token)} (hx : Reads plain ts x) {plain' : Prop}
    (h : plain' → plain) : Reads plain' ts x := by
  intro d
  have hd := hx d
  rcases hrun : x.run d with cause | ⟨⟨a, rest⟩, d'⟩ <;> rw [hrun] at hd
  · exact hd
  · obtain ⟨used, heq, hadds⟩ := hd
    exact ⟨used, heq, fun hp => hadds (h hp)⟩

/-- A step in front that takes no tokens, adds the node of an empty place at most, and fails as a
grammar does. -/
theorem after {x : Drafting α} {g : α → Drafting (β × List Token)}
    (hx : ∀ d, match x.run d with
      | .ok (_, d') => Adds d d' []
      | .error cause => Refuses ts cause)
    (hg : ∀ a, Reads plain ts (g a)) : Reads plain ts (x >>= g) := by
  intro d
  have h := hx d
  rw [StateT.run_bind]
  rcases hrun : x.run d with cause | ⟨a, d₁⟩ <;> rw [hrun] at h
  · exact h
  · have h' := hg a d₁
    change Comes plain ts d ((g a).run d₁)
    rcases hrun' : (g a).run d₁ with cause | ⟨⟨b, rest⟩, d'⟩ <;> rw [hrun'] at h'
    · exact h'
    · obtain ⟨used, heq, hadds⟩ := h'
      exact ⟨used, heq, fun hp hu => h.trans (hadds hp hu)⟩

end Reads

/-! ## Nodes -/

@[simp] theorem nodes_add (g : Graph) (node : Node) :
    (g.add node).nodes.toList = g.nodes.toList ++ [node] := by
  simp [Graph.add]

/-- A node that is added, unless its anchor is there already. -/
theorem run_add (anchor : Option (List Char)) (node : Node) (d : Draft) :
    (Draft.add anchor node).run d =
      if (anchor.bind d.find).isSome then .error .malformed else .ok (d.insert anchor node) := by
  rw [Draft.add]
  simp only [StateT.run_bind, StateT.run_get]
  by_cases h : (anchor.bind d.find).isSome = true
  · rw [if_pos h]
    exact congrArg (StateT.run · d) (if_pos h)
  · rw [if_neg h]
    exact congrArg (StateT.run · d) (if_neg h)

/-- The node of an empty place is added without a trace. -/
theorem run_addEmpty (d : Draft) : match Draft.addEmpty.run d with
    | .ok (_, d') => Adds d d' []
    | .error cause => Refuses [] cause := by
  rw [Draft.addEmpty, run_add]
  exact ⟨[.empty], nodes_add _ _, tells_empty⟩

theorem reads_empty {plain : Prop} (ts : List Token) :
    Reads plain ts (do return (← Draft.addEmpty, ts)) := by
  refine Reads.after (fun d => ?_) fun number => Reads.done number
  exact ⟨[.empty], nodes_add _ _, tells_empty⟩

theorem Properties.definite_eq_none {p : Properties} (h : p.tag = none) : p.definite = none := by
  simp [definite, h]

/-- A scalar without a tag. -/
theorem reads_scalar (p : Properties) (text : List Point) (isPlain : Bool) (r : List Token) :
    Reads (p.tag = none) (.scalar text isPlain :: r) (do
      return (← p.scalar Tag.ofSpelling text (isPlain && p.tag.isNone), r)) := by
  intro d
  rw [StateT.run_bind, Properties.scalar, run_add]
  split
  · exact .inl rfl
  · refine ⟨[.scalar text isPlain], rfl, fun hp _ => ?_⟩
    refine ⟨_, nodes_add _ _, ?_⟩
    simp only [Properties.definite_eq_none hp, hp, Option.isNone_none, Bool.and_true,
      Option.isSome_none, Bool.or_false, Option.getD_none]
    exact tells_scalar text isPlain

/-- What stands where no node does. -/
theorem reads_nothing (p : Properties) (ts : List Token) :
    Reads (p.tag = none) ts (p.nothing Tag.ofSpelling ts) := by
  rw [Properties.nothing.eq_def]
  split
  · exact Reads.refused (.inr (.inr (List.mem_cons_self ..)))
  · split
    · exact Reads.malformed
    · intro d
      rw [StateT.run_bind, Properties.scalar, run_add]
      split
      · exact .inl rfl
      · refine ⟨[], rfl, fun hp _ => ⟨_, nodes_add _ _, ?_⟩⟩
        simp only [Properties.definite_eq_none hp]
        exact tells_empty

/-- A node that gets its body keeps its tag and all other nodes. -/
theorem nodes_setBody {g : Graph} {before more : List Node} {node : Node} (body : Body)
    (h : g.nodes.toList = before ++ node :: more) :
    (g.setBody before.length body).nodes.toList = before ++ { node with body := body } :: more := by
  rw [Graph.setBody, Array.toList_modify, h]
  exact List.modifyTailIdx_add _ 0 before (node :: more)

/-- A step inside a collection is the step, but for the depth. -/
theorem run_within (x : Drafting α) (d : Draft) :
    (Draft.within x).run d = (x.run { d with depth := d.depth + 1 }).map fun found =>
      (found.1, { found.2 with depth := found.2.depth - 1 }) := by
  rw [Draft.within]
  simp only [StateT.run_bind, StateT.run_modify, pure_bind]
  cases x.run { d with depth := d.depth + 1 } <;> rfl

/-- A collection: its node is added before its parts are read, and filled with them after. -/
def collection (anchor : Option (List Char)) (tag : Tag) (wrap : α → Body) (none : α)
    (parts : Drafting (α × List Token)) : Drafting (Nat × List Token) := do
  let number ← Draft.add anchor ⟨tag, wrap none⟩
  let (parts, rest) ← Draft.within parts
  Draft.fill number (wrap parts)
  return (number, rest)

theorem seq_eq_collection (p : Properties) (items : Drafting (List Nat × List Token)) :
    p.seq items = collection p.anchor (p.definite.getD .seq) .seq [] items := rfl

theorem map_eq_collection (p : Properties) (pairs : Drafting (List (Nat × Nat) × List Token)) :
    p.map pairs = collection p.anchor (p.definite.getD .map) .map [] pairs := rfl

/-- The document inside a collection that begins. -/
def Draft.inside (d : Draft) (anchor : Option (List Char)) (node : Node) : Draft :=
  { (d.insert anchor node).2 with depth := d.depth + 1 }

/-- The document after a collection, given the one at the end of its parts. -/
def Draft.closed (d : Draft) (number : Nat) (body : Body) : Draft :=
  { d with depth := d.depth - 1, graph := d.graph.setBody number body }

theorem run_collection (anchor : Option (List Char)) (tag : Tag) (wrap : α → Body) (none : α)
    (parts : Drafting (α × List Token)) (d : Draft) :
    (collection anchor tag wrap none parts).run d =
      if (anchor.bind d.find).isSome then .error .malformed
      else (parts.run (d.inside anchor ⟨tag, wrap none⟩)).map fun found =>
        ((d.graph.size, found.1.2), found.2.closed d.graph.size (wrap found.1.1)) := by
  rw [collection, StateT.run_bind, run_add]
  split
  · rfl
  · have hwithin : (Draft.within parts).run (d.insert anchor ⟨tag, wrap none⟩).2
        = (parts.run (d.inside anchor ⟨tag, wrap none⟩)).map fun found =>
          (found.1, { found.2 with depth := found.2.depth - 1 }) := run_within parts _
    change (do let p ← (Draft.within parts).run (d.insert anchor ⟨tag, wrap none⟩).2; _) = _
    rw [hwithin]
    rcases parts.run (d.inside anchor ⟨tag, wrap none⟩) with cause | ⟨⟨a, rest⟩, d'⟩ <;> rfl

/-- **A collection reads what its parts read.** -/
theorem reads_collection {plain : Prop} {ts : List Token} (anchor : Option (List Char)) (tag : Tag)
    (wrap : α → Body) (none : α) {parts : Drafting (α × List Token)}
    (h : Reads plain ts parts)
    (form : plain → ∀ a, (Node.mk tag (wrap a)).HasForm ∧
      (Node.mk tag (wrap a)).isWritten = false) :
    Reads plain ts (collection anchor tag wrap none parts) := by
  intro d
  rw [run_collection]
  split
  · exact .inl rfl
  have hparts := h (d.inside anchor ⟨tag, wrap none⟩)
  rcases hrun : parts.run (d.inside anchor ⟨tag, wrap none⟩) with cause | ⟨⟨a, rest⟩, d'⟩ <;>
    rw [hrun] at hparts
  · exact hparts
  · obtain ⟨used, heq, hadds⟩ := hparts
    refine ⟨used, heq, fun hp hu => ?_⟩
    obtain ⟨nodes, hnodes, htells⟩ := hadds hp hu
    obtain ⟨hform, hwritten⟩ := form hp a
    refine ⟨⟨tag, wrap a⟩ :: nodes, ?_, htells.collection hform hwritten⟩
    have hbefore : d'.graph.nodes.toList
        = d.graph.nodes.toList ++ ⟨tag, wrap none⟩ :: nodes := by
      have hinside : (d.inside anchor ⟨tag, wrap none⟩).graph.nodes.toList
          = d.graph.nodes.toList ++ [⟨tag, wrap none⟩] := nodes_add ..
      rw [hnodes, hinside, List.append_assoc]
      rfl
    exact nodes_setBody (wrap a) hbefore

theorem reads_seq (p : Properties) {ts : List Token} {items : Drafting (List Nat × List Token)}
    (h : Reads True ts items) : Reads (p.tag = none) ts (p.seq items) := by
  rw [seq_eq_collection]
  refine reads_collection _ _ _ _ (h.mono fun _ => trivial) fun hp items => ?_
  rw [Properties.definite_eq_none hp]
  exact ⟨rfl, rfl⟩

theorem reads_map (p : Properties) {ts : List Token}
    {pairs : Drafting (List (Nat × Nat) × List Token)} (h : Reads True ts pairs) :
    Reads (p.tag = none) ts (p.map pairs) := by
  rw [map_eq_collection]
  refine reads_collection _ _ _ _ (h.mono fun _ => trivial) fun hp pairs => ?_
  rw [Properties.definite_eq_none hp]
  exact ⟨rfl, rfl⟩

/-- A tag whose handle is not declared breaks the grammar. -/
theorem expand_error {handles : Handles} {handle : Option (List Char)} {suffix : List Char}
    {cause : TextFault} (h : handles.expand handle suffix = .error cause) : cause = .malformed := by
  cases handle with
  | none => cases h
  | some name =>
    simp only [Handles.expand] at h
    split at h
    · cases h
    · exact (Except.error.inj h).symm

/-- What becomes of tokens in front of a node: some that are no scalars are taken, and `plain` holds
of what they say unless a tag is among them; or else the fault is one of a grammar. -/
def Passes {β : Type} (plain : β → Prop) (ts : List Token) :
    Except TextFault (β × List Token) → Prop
  | .ok (b, rest) => ∃ used, ts = used ++ rest ∧ (∀ t ∈ used, t.node? = none) ∧
      (Token.Untagged used → plain b)
  | .error cause => Refuses ts cause

/-- **A node with what stands in front of it.** -/
theorem Reads.lift {plain : β → Prop} {ts : List Token} {x : Except TextFault (β × List Token)}
    (hx : Passes plain ts x) {g : β × List Token → Drafting (α × List Token)}
    (hg : ∀ b rest, Reads (plain b) rest (g (b, rest))) : Reads True ts (liftM x >>= g) := by
  intro d
  rcases x with cause | ⟨b, rest⟩
  · exact hx
  obtain ⟨used, rfl, hused, hb⟩ := hx
  have h := hg b rest d
  change Comes True (used ++ rest) d ((g (b, rest)).run d)
  rcases hrun : (g (b, rest)).run d with cause | ⟨⟨a, rest'⟩, d'⟩ <;> rw [hrun] at h
  · exact h.append used
  · obtain ⟨more, rfl, hadds⟩ := h
    refine ⟨used ++ more, (List.append_assoc ..).symm, fun _ hu => ?_⟩
    obtain ⟨nodes, heq, htells⟩ := hadds (hb hu.left) hu.right
    refine ⟨nodes, heq, ?_, htells.form⟩
    have hnone : used.filterMap Token.node? = [] := List.filterMap_eq_nil_iff.2 hused
    rw [htells.scalars, Token.scalars_append]
    simp [Token.scalars, hnone]

/-- The anchor and the tag in front of a node. -/
theorem passes_properties (handles : Handles) (ts : List Token) :
    Passes (fun p : Properties => p.tag = none) ts (Properties.take handles ts) := by
  have tagged : ∀ {used : List Token} {p : Properties} (handle suffix),
      .tag handle suffix ∈ used → Token.Untagged used → p.tag = none :=
    fun _ _ mem hu => absurd mem (hu _ _)
  unfold Properties.take
  split
  · exact .inr (.inr (by simp))
  · rename_i name handle suffix r
    cases he : handles.expand handle suffix with
    | error cause => exact .inl (expand_error he)
    | ok uri =>
      refine ⟨[.anchor name, .tag handle suffix], rfl, by simp [Token.node?], ?_⟩
      exact tagged handle suffix (by simp)
  · rename_i handle suffix name r
    cases he : handles.expand handle suffix with
    | error cause => exact .inl (expand_error he)
    | ok uri =>
      refine ⟨[.tag handle suffix, .anchor name], rfl, by simp [Token.node?], ?_⟩
      exact tagged handle suffix (by simp)
  · rename_i name r _
    exact ⟨[.anchor name], rfl, by simp [Token.node?], fun _ => rfl⟩
  · rename_i handle suffix r _ _
    cases he : handles.expand handle suffix with
    | error cause => exact .inl (expand_error he)
    | ok uri =>
      refine ⟨[.tag handle suffix], rfl, by simp [Token.node?], ?_⟩
      exact tagged handle suffix (by simp)
  · exact ⟨[], rfl, by simp, fun _ => rfl⟩

theorem run_checkDepth (d : Draft) :
    Draft.checkDepth.run d =
      if Draft.nestingLimit < d.depth then .error .tooDeep else .ok ((), d) := by
  rw [Draft.checkDepth, StateT.run_bind, StateT.run_get]
  by_cases h : Draft.nestingLimit < d.depth
  · rw [if_pos h]
    exact congrArg (StateT.run · d) (if_pos h)
  · rw [if_neg h]
    exact congrArg (StateT.run · d) (if_neg h)

/-- An alias is taken without a trace, if its anchor is there. -/
theorem reads_target {plain : Prop} (name : List Char) (ts : List Token) :
    Reads plain ts (do return (← Draft.target name, ts)) := by
  refine Reads.after (fun d => ?_) fun number => .done number
  cases h : d.find name with
  | none =>
    have hrun : (Draft.target name).run d = .error .malformed := by
      simp only [Draft.target, StateT.run_bind, StateT.run_get, pure_bind, h]
      rfl
    rw [hrun]
    exact .inl rfl
  | some number =>
    have hrun : (Draft.target name).run d = .ok (number, d) := by
      simp only [Draft.target, StateT.run_bind, StateT.run_get, pure_bind, h]
      rfl
    rw [hrun]
    exact Adds.refl d

namespace Grammar

/-- Every form is read with so much fuel. -/
structure AllRead (handles : Handles) (fuel : Nat) : Prop where
  node : ∀ inBlock afterKey ts, Reads True ts (node Tag.ofSpelling handles inBlock afterKey fuel ts)
  blockItems : ∀ ts, Reads True ts (blockItems Tag.ofSpelling handles fuel ts)
  bareItems : ∀ ts, Reads True ts (bareItems Tag.ofSpelling handles fuel ts)
  blockPart : ∀ ts, Reads True ts (blockPart Tag.ofSpelling handles fuel ts)
  blockPairs : ∀ ts, Reads True ts (blockPairs Tag.ofSpelling handles fuel ts)
  flowPart : ∀ closing ts, Reads True ts (flowPart Tag.ofSpelling handles closing fuel ts)
  flowValue : ∀ closing ts, Reads True ts (flowValue Tag.ofSpelling handles closing fuel ts)
  flowPair : ∀ closing ts, Reads True ts (flowPair Tag.ofSpelling handles closing fuel ts)
  flowItems : ∀ ts, Reads True ts (flowItems Tag.ofSpelling handles fuel ts)
  flowPairs : ∀ ts, Reads True ts (flowPairs Tag.ofSpelling handles fuel ts)

variable {handles : Handles} {fuel : Nat}

/-- Looking at the depth takes no token. -/
theorem reads_checkDepth {ts : List Token} {x : Drafting (α × List Token)} (h : Reads True ts x) :
    Reads True ts (Draft.checkDepth >>= fun _ => x) := by
  refine Reads.after (fun d => ?_) fun _ => h
  rw [run_checkDepth]
  by_cases hd : Draft.nestingLimit < d.depth
  · rw [if_pos hd]
    exact .inr (.inl rfl)
  · rw [if_neg hd]
    exact Adds.refl d

theorem reads_node (ih : AllRead handles fuel) (inBlock afterKey : Bool) (ts : List Token) :
    Reads True ts (node Tag.ofSpelling handles inBlock afterKey (fuel + 1) ts) := by
  unfold node
  refine reads_checkDepth ?_
  split
  case h_1 name r => exact Reads.cons (reads_target name r) rfl
  case h_2 =>
    refine .lift (passes_properties handles _) fun p rest => ?_
    dsimp only
    split
    case h_1 r =>
      split
      · exact reads_seq p (ih.bareItems _)
      · exact reads_nothing p _
    case h_2 text isPlain r => exact reads_scalar p text isPlain r
    case h_3 r => exact .cons (reads_seq p (.cons (.done _) rfl)) rfl
    case h_4 r _ => exact .cons (reads_seq p (ih.flowItems r)) rfl
    case h_5 r => exact .cons (reads_map p (.cons (.done _) rfl)) rfl
    case h_6 r _ => exact .cons (reads_map p (ih.flowPairs r)) rfl
    case h_7 r =>
      split
      · exact .cons (reads_seq p (ih.blockItems r)) rfl
      · exact reads_nothing p _
    case h_8 r =>
      split
      · exact .cons (reads_map p (ih.blockPairs r)) rfl
      · exact reads_nothing p _
    case h_9 => exact reads_nothing p _

theorem reads_blockItems (ih : AllRead handles fuel) (ts : List Token) :
    Reads True ts (blockItems Tag.ofSpelling handles (fuel + 1) ts) := by
  unfold blockItems
  split
  case h_1 r => exact .cons (.done _) rfl
  case h_2 r =>
    refine .cons ?_ rfl
    extract_lets joint
    have joined : ∀ item rest, Reads True rest (joint (item, rest)) := fun item rest =>
      .bind (ih.blockItems rest) fun items rest => .done _
    split
    · exact .bind (reads_empty _) joined
    · exact .bind (reads_empty _) joined
    · exact .bind (ih.node _ _ _) joined
  case h_3 => exact .refusal

theorem reads_bareItems (ih : AllRead handles fuel) (ts : List Token) :
    Reads True ts (bareItems Tag.ofSpelling handles (fuel + 1) ts) := by
  unfold bareItems
  split
  case h_1 r =>
    refine .cons ?_ rfl
    extract_lets joint
    have joined : ∀ item rest, Reads True rest (joint (item, rest)) := fun item rest =>
      .bind (ih.bareItems rest) fun items rest => .done _
    split
    · exact .bind (reads_empty _) joined
    · exact .bind (reads_empty _) joined
    · exact .bind (reads_empty _) joined
    · exact .bind (reads_empty _) joined
    · exact .bind (ih.node _ _ _) joined
  case h_2 cause r => exact .refused (.inr (.inr (List.mem_cons_self ..)))
  case h_3 => exact .done _

theorem reads_blockPart (ih : AllRead handles fuel) (ts : List Token) :
    Reads True ts (blockPart Tag.ofSpelling handles (fuel + 1) ts) := by
  unfold blockPart
  split
  · exact reads_empty _
  · exact reads_empty _
  · exact reads_empty _
  · exact ih.node _ _ _

theorem reads_blockPairs (ih : AllRead handles fuel) (ts : List Token) :
    Reads True ts (blockPairs Tag.ofSpelling handles (fuel + 1) ts) := by
  unfold blockPairs
  split
  case h_1 r => exact .cons (.done _) rfl
  case h_2 r =>
    refine .cons (.bind (ih.blockPart r) fun k rest => ?_) rfl
    dsimp -zeta only
    extract_lets joint
    have joined : ∀ v rest, Reads True rest (joint (v, rest)) := fun v rest =>
      .bind (ih.blockPairs rest) fun pairs rest => .done _
    split
    case h_1 r => exact .cons (.bind (ih.blockPart r) joined) rfl
    case h_2 cause r => exact .bind (.refused (.inr (.inr (List.mem_cons_self ..)))) joined
    case h_3 => exact .bind (reads_empty _) joined
  case h_3 => exact .refusal

theorem reads_flowPart (ih : AllRead handles fuel) (closing : Token) (ts : List Token) :
    Reads True ts (flowPart Tag.ofSpelling handles closing (fuel + 1) ts) := by
  unfold flowPart
  split
  · split
    · exact reads_empty _
    · exact ih.node _ _ _
  · exact .malformed

theorem reads_flowValue (ih : AllRead handles fuel) (closing : Token) (ts : List Token) :
    Reads True ts (flowValue Tag.ofSpelling handles closing (fuel + 1) ts) := by
  unfold flowValue
  split
  case h_1 t r =>
    refine .cons ?_ rfl
    split
    · exact reads_empty _
    · exact ih.node _ _ _
  case h_2 => exact .malformed
  case h_3 cause r => exact .refused (.inr (.inr (List.mem_cons_self ..)))
  case h_4 => exact reads_empty _

theorem reads_flowPair (ih : AllRead handles fuel) (closing : Token) (ts : List Token) :
    Reads True ts (flowPair Tag.ofSpelling handles closing (fuel + 1) ts) := by
  unfold flowPair
  exact .bind (ih.flowPart closing ts) fun k rest =>
    .bind (ih.flowValue closing rest) fun v rest => .done _

theorem reads_flowItems (ih : AllRead handles fuel) (ts : List Token) :
    Reads True ts (flowItems Tag.ofSpelling handles (fuel + 1) ts) := by
  unfold flowItems
  extract_lets joint
  have joined : ∀ item rest, Reads True rest (joint (item, rest)) := by
    intro item rest
    dsimp only [joint]
    split
    case h_1 r => exact .cons (.done _) rfl
    case h_2 r => exact .cons (.cons (.done _) rfl) rfl
    case h_3 r _ =>
      exact .cons (t := .comma)
        (.bind (ih.flowItems r) fun items rest => .done (item :: items)) rfl
    case h_4 => exact .refusal
  split
  case h_1 r =>
    refine .cons (.bind ?_ joined) rfl
    exact (reads_map ⟨none, none⟩ (.bind (ih.flowPair _ r) fun pair rest => .done _)).mono
      fun _ => rfl
  case h_2 => exact .bind (ih.node _ _ _) joined

theorem reads_flowPairs (ih : AllRead handles fuel) (ts : List Token) :
    Reads True ts (flowPairs Tag.ofSpelling handles (fuel + 1) ts) := by
  unfold flowPairs
  extract_lets joint
  have joined : ∀ pair rest, Reads True rest (joint (pair, rest)) := by
    intro pair rest
    dsimp only [joint]
    split
    case h_1 r => exact .cons (.done _) rfl
    case h_2 r => exact .cons (.cons (.done _) rfl) rfl
    case h_3 r _ =>
      exact .cons (t := .comma)
        (.bind (ih.flowPairs r) fun pairs rest => .done (pair :: pairs)) rfl
    case h_4 => exact .refusal
  split
  case h_1 r => exact .cons (.bind (ih.flowPair _ r) joined) rfl
  case h_2 =>
    refine .bind (ih.node _ _ _) fun k rest => ?_
    exact .after (fun d => run_addEmpty d) fun v => joined (k, v) rest

/-- **Every form reads its tokens.** -/
theorem allRead (handles : Handles) : ∀ fuel, AllRead handles fuel
  | 0 =>
    { node _ _ _ := .malformed, blockItems _ := .malformed, bareItems _ := .malformed
      blockPart _ := .malformed, blockPairs _ := .malformed, flowPart _ _ := .malformed
      flowValue _ _ := .malformed, flowPair _ _ := .malformed, flowItems _ := .malformed
      flowPairs _ := .malformed }
  | fuel + 1 =>
    have ih := allRead handles fuel
    { node := reads_node ih, blockItems := reads_blockItems ih, bareItems := reads_bareItems ih
      blockPart := reads_blockPart ih, blockPairs := reads_blockPairs ih
      flowPart := reads_flowPart ih, flowValue := reads_flowValue ih
      flowPair := reads_flowPair ih, flowItems := reads_flowItems ih
      flowPairs := reads_flowPairs ih }

/-! ## Documents -/

/-- The directives in front of a document. -/
theorem passes_directives (hasVersion : Bool) (handles : Handles) (ts : List Token) :
    Passes (fun _ => True) ts (directives hasVersion handles ts) := by
  have further : ∀ {found} (d : Directive) (r : List Token),
      Passes (fun _ : Handles => True) r found →
      Passes (fun _ => True) (.directive d :: r) found := by
    rintro (cause | ⟨handles, rest⟩) d r h
    · exact Refuses.append h [.directive d]
    · obtain ⟨used, rfl, hused, -⟩ := h
      exact ⟨.directive d :: used, rfl, List.forall_mem_cons.2 ⟨rfl, hused⟩, fun _ => trivial⟩
  fun_induction directives hasVersion handles ts with
  | case1 => exact .inl rfl
  | case2 _ _ _ _ _ ih => exact further _ _ ih
  | case3 => exact .inl rfl
  | case4 _ _ _ _ _ _ ih => exact further _ _ ih
  | case5 _ _ _ ih => exact further _ _ ih
  | case6 => exact ⟨[], rfl, by simp, fun _ => trivial⟩

theorem reads_content (handles : Handles) (fuel : Nat) (ts : List Token) :
    Reads True ts (content Tag.ofSpelling handles fuel ts) := by
  unfold content
  split
  · exact reads_empty _
  · exact reads_empty _
  · exact reads_empty _
  · exact reads_empty _
  · exact (allRead handles fuel).node _ _ _

/-- A document with its first line. -/
theorem reads_headed (fuel : Nat) (ts : List Token) : Reads True ts (do
    let (handles, rest) ← liftM (directives false [] ts)
    match rest with
    | .documentStart :: r => content Tag.ofSpelling handles fuel r
    | rest => throw (refusal rest)) := by
  refine .lift (passes_directives false [] ts) fun handles rest => ?_
  dsimp only
  split
  · exact .cons (reads_content handles fuel _) rfl
  · exact .refusal

theorem reads_document (fuel : Nat) (ts : List Token) :
    Reads True ts (document Tag.ofSpelling fuel ts) := by
  unfold document
  split
  · exact reads_headed fuel _
  · exact reads_headed fuel _
  · exact (allRead _ fuel).node _ _ _

/-- After a document there are no more scalars. -/
theorem passes_ending (ts : List Token) :
    Passes (fun _ => True) ts ((ending ts).map fun u => (u, [])) := by
  fun_induction ending ts with
  | case1 => exact ⟨[], rfl, by simp, fun _ => trivial⟩
  | case2 r ih =>
    revert ih
    cases ending r with
    | error cause => exact fun ih => Refuses.append ih [.documentEnd]
    | ok u =>
      rintro ⟨used, heq, hused, -⟩
      exact ⟨.documentEnd :: used, by rw [heq]; rfl, List.forall_mem_cons.2 ⟨rfl, hused⟩,
        fun _ => trivial⟩
  | case3 ts _ _ =>
    have h := passes_directives false [] ts
    revert h
    rcases directives false [] ts with cause | ⟨handles, rest⟩
    · exact id
    · rintro ⟨used, rfl, -, -⟩
      exact (refuses_refusal rest).append used

end Grammar

/-! ## The nodes of a document -/

/-- A document is read, and then what follows it. -/
theorem Graph.ofTokens?_eq {ts : List Token} (h : ts ≠ []) :
    Graph.ofTokens? Tag.ofSpelling ts =
      match (Grammar.document Tag.ofSpelling (3 * ts.length + 3) ts).run .empty with
      | .error cause => .error cause
      | .ok ((root, rest), draft) =>
        (Grammar.ending rest).map fun _ => some (draft.graph, root) := by
  rw [Graph.ofTokens?, if_neg (by simpa using h)]
  rcases (Grammar.document Tag.ofSpelling (3 * ts.length + 3) ts).run .empty
    with cause | ⟨⟨root, rest⟩, draft⟩
  · rfl
  · dsimp only
    change (do Grammar.ending rest; return some (draft.graph, root)) = _
    cases Grammar.ending rest <;> rfl

/-- What becomes of the tokens of a document: its nodes tell them, or the fault is one of a
grammar. -/
def Told (ts : List Token) : Except TextFault (Option (Graph × Nat)) → Prop
  | .ok none => ts = []
  | .ok (some (g, _)) => Token.Untagged ts → Tells ts g.nodes.toList
  | .error cause => Refuses ts cause

/-- **The nodes of a document tell its tokens.** -/
theorem told_ofTokens (ts : List Token) : Told ts (Graph.ofTokens? Tag.ofSpelling ts) := by
  by_cases hts : ts = []
  · subst hts
    exact rfl
  rw [Graph.ofTokens?_eq hts]
  have hdocument := Grammar.reads_document (3 * ts.length + 3) ts .empty
  rcases hrun : (Grammar.document Tag.ofSpelling (3 * ts.length + 3) ts).run .empty with
    cause | ⟨⟨root, rest⟩, draft⟩ <;> rw [hrun] at hdocument
  · exact hdocument
  obtain ⟨used, rfl, hadds⟩ := hdocument
  have hending := Grammar.passes_ending rest
  dsimp only
  rcases hend : Grammar.ending rest with cause | u <;> rw [hend] at hending
  · exact Refuses.append hending used
  · obtain ⟨more, hmore, hnone, -⟩ := hending
    intro hu
    obtain ⟨nodes, hnodes, htells⟩ := hadds trivial hu.left
    have hrest : rest.filterMap Token.node? = [] := by
      rw [hmore, List.append_nil]
      exact List.filterMap_eq_nil_iff.2 hnone
    have hempty : Draft.empty.graph.nodes.toList = [] := rfl
    rw [hnodes, hempty, List.nil_append]
    refine ⟨?_, htells.form⟩
    rw [htells.scalars, Token.scalars_append]
    simp [Token.scalars, hrest]

end LintBundle.Yaml
