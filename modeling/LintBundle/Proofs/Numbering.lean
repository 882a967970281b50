import LintBundle.Proofs.Drafting
import LintBundle.Proofs.FlowTokens

/-!
# Proofs/Numbering — the nodes of data in flow style

    tokens that write data ──Grammar──▸ nodes in a row, laid out for the data

The grammar numbers a collection before its parts (`Laid`).  In any document that has room for the
collections, tokens that write data add just the nodes of the data (`Writes.drafts`), by one step
for each way they are put together; a document of such tokens has no others (`Writes.ofTokens`). -/

namespace LintBundle

namespace Json

mutual

/-- How many arrays and objects lie around the deepest part. -/
def levels : Json → Nat
  | array items => levelsItems items
  | object members => levelsMembers members
  | _ => 0

def levelsItems : List Json → Nat
  | [] => 0
  | j :: rest => max (levels j + 1) (levelsItems rest)

def levelsMembers : List (Text × Json) → Nat
  | [] => 0
  | (_, j) :: rest => max (levels j + 1) (levelsMembers rest)

end

end Json

namespace Yaml

/-- **How the nodes of data are numbered** from a number on: a collection in front of its parts, and
the parts one after another; the body holds the numbers of the parts. -/
inductive Laid : Form → Nat → Body → List Node → Prop
  | word {w : List Char} {j : Json} {n : Nat}
      (h : (Tag.ofSpelling w).read (w.map .char) = .ok j.toValue) :
      Laid (.data j) n (.scalar (w.map .char)) [⟨Tag.ofSpelling w, .scalar (w.map .char)⟩]
  | quoted (text : List Point) (n : Nat) :
      Laid (.data (.str (.ofList text))) n (.scalar text) [⟨.str, .scalar text⟩]
  | array {js : List Json} {n : Nat} {items : List Nat} {nodes : List Node}
      (h : Laid (.items js) (n + 1) (.seq items) nodes) :
      Laid (.data (.array js)) n (.seq items) (⟨.seq, .seq items⟩ :: nodes)
  | noItems (n : Nat) : Laid (.items []) n (.seq []) []
  | item {j : Json} {js : List Json} {n : Nat} {body : Body} {items : List Nat}
      {nodes nodes' : List Node} (h : Laid (.data j) n body nodes)
      (h' : Laid (.items js) (n + nodes.length) (.seq items) nodes') :
      Laid (.items (j :: js)) n (.seq (n :: items)) (nodes ++ nodes')
  | object {ms : List (Text × Json)} {n : Nat} {pairs : List (Nat × Nat)} {nodes : List Node}
      (h : Laid (.members ms) (n + 1) (.map pairs) nodes) :
      Laid (.data (.object ms)) n (.map pairs) (⟨.map, .map pairs⟩ :: nodes)
  | noMembers (n : Nat) : Laid (.members []) n (.map []) []
  | member {j : Json} {ms : List (Text × Json)} {n : Nat} {body : Body}
      {pairs : List (Nat × Nat)} {nodes nodes' : List Node} (name : List Point)
      (h : Laid (.data j) (n + 1) body nodes)
      (h' : Laid (.members ms) (n + 1 + nodes.length) (.map pairs) nodes') :
      Laid (.members ((.ofList name, j) :: ms)) n (.map ((n, n + 1) :: pairs))
        (⟨.str, .scalar name⟩ :: (nodes ++ nodes'))

variable {handles : Handles} {inBlock afterKey : Bool} {fuel : Nat} {d : Draft} {r : List Token}

/-- A document with more nodes. -/
def Draft.extend (d : Draft) (nodes : List Node) : Draft :=
  { d with graph := ⟨d.graph.nodes ++ nodes.toArray⟩ }

namespace Grammar

theorem run_node_scalar (text : List Point) (isPlain : Bool)
    (hdepth : d.depth ≤ Draft.nestingLimit) :
    (node Tag.ofSpelling handles inBlock afterKey (fuel + 1) (.scalar text isPlain :: r)).run d
      = .ok ((d.graph.size, r),
        d.extend [⟨if isPlain then Tag.ofSpelling (Text.shapes text) else .str,
          .scalar text⟩]) := by
  unfold node
  rw [StateT.run_bind, run_checkDepth, if_neg (Nat.not_lt.2 hdepth)]
  change (do return (← Properties.scalar Tag.ofSpelling ⟨none, none⟩ text (isPlain && true), r) :
    Drafting (Nat × List Token)).run d = _
  rw [StateT.run_bind, Properties.scalar, run_add, if_neg (by simp)]
  cases isPlain <;> rfl

theorem run_collection_eq {α : Type} (tag : Tag) (wrap : α → Body) (nothing : α) {a : α}
    {parts : Drafting (α × List Token)} {nodes : List Node}
    (h : parts.run (d.inside none ⟨tag, wrap nothing⟩)
      = .ok ((a, r), (d.inside none ⟨tag, wrap nothing⟩).extend nodes)) :
    (collection none tag wrap nothing parts).run d
      = .ok ((d.graph.size, r), d.extend (⟨tag, wrap a⟩ :: nodes)) := by
  have hnodes : ((d.inside none ⟨tag, wrap nothing⟩).extend nodes).graph.nodes.toList
      = d.graph.nodes.toList ++ ⟨tag, wrap nothing⟩ :: nodes := by
    simp [Draft.extend, Draft.inside, Draft.insert, Graph.add]
  have hfilled := nodes_setBody (wrap a) hnodes
  have hgraph :
      ((d.inside none ⟨tag, wrap nothing⟩).extend nodes).graph.setBody d.graph.size (wrap a)
      = (d.extend (⟨tag, wrap a⟩ :: nodes)).graph := by
    refine congrArg Graph.mk (Array.toList_inj.1 ?_)
    exact hfilled.trans (by simp)
  rw [run_collection, if_neg (by simp), h]
  change Except.ok ((d.graph.size, r), Draft.closed _ _ _) = _
  rw [Draft.closed, hgraph]
  rfl

theorem run_node_array (hdepth : d.depth ≤ Draft.nestingLimit)
    (hr : r.head? ≠ some .flowSequenceEnd) :
    (node Tag.ofSpelling handles inBlock afterKey (fuel + 1) (.flowSequence :: r)).run d
      = (collection none .seq .seq [] (flowItems Tag.ofSpelling handles fuel r)).run d := by
  unfold node
  rw [StateT.run_bind, run_checkDepth, if_neg (Nat.not_lt.2 hdepth)]
  cases r with
  | nil => rfl
  | cons t r =>
    cases t with
    | flowSequenceEnd => exact absurd rfl hr
    | _ => rfl

theorem run_node_object (hdepth : d.depth ≤ Draft.nestingLimit)
    (hr : r.head? ≠ some .flowMappingEnd) :
    (node Tag.ofSpelling handles inBlock afterKey (fuel + 1) (.flowMapping :: r)).run d
      = (collection none .map .map [] (flowPairs Tag.ofSpelling handles fuel r)).run d := by
  unfold node
  rw [StateT.run_bind, run_checkDepth, if_neg (Nat.not_lt.2 hdepth)]
  cases r with
  | nil => rfl
  | cons t r =>
    cases t with
    | flowMappingEnd => exact absurd rfl hr
    | _ => rfl

theorem run_node_emptyArray (hdepth : d.depth ≤ Draft.nestingLimit) :
    (node Tag.ofSpelling handles inBlock afterKey (fuel + 1)
      (.flowSequence :: .flowSequenceEnd :: r)).run d
      = (collection none .seq .seq [] (pure ([], r))).run d := by
  unfold node
  rw [StateT.run_bind, run_checkDepth, if_neg (Nat.not_lt.2 hdepth)]
  rfl

theorem run_node_emptyObject (hdepth : d.depth ≤ Draft.nestingLimit) :
    (node Tag.ofSpelling handles inBlock afterKey (fuel + 1)
      (.flowMapping :: .flowMappingEnd :: r)).run d
      = (collection none .map .map [] (pure ([], r))).run d := by
  unfold node
  rw [StateT.run_bind, run_checkDepth, if_neg (Nat.not_lt.2 hdepth)]
  rfl

/-- The last item of a sequence is the only one left. -/
theorem run_flowItems_last {t : Token} {ts : List Token} (ht : t ≠ .key) {n : Nat} {d' : Draft}
    (h : (node Tag.ofSpelling handles false false fuel (t :: ts)).run d
      = .ok ((n, .flowSequenceEnd :: r), d')) :
    (flowItems Tag.ofSpelling handles (fuel + 1) (t :: ts)).run d = .ok (([n], r), d') := by
  unfold flowItems
  cases t with
  | key => exact absurd rfl ht
  | _ =>
    rw [StateT.run_bind, h]
    rfl

/-- An item that others follow stands in front of them. -/
theorem run_flowItems_more {t t' : Token} {ts ts' : List Token} (ht : t ≠ .key)
    (ht' : t' ≠ .flowSequenceEnd) {n : Nat} {ns : List Nat} {d' d'' : Draft}
    (h : (node Tag.ofSpelling handles false false fuel (t :: ts)).run d
      = .ok ((n, .comma :: t' :: ts'), d'))
    (h' : (flowItems Tag.ofSpelling handles fuel (t' :: ts')).run d' = .ok ((ns, r), d'')) :
    (flowItems Tag.ofSpelling handles (fuel + 1) (t :: ts)).run d = .ok ((n :: ns, r), d'') := by
  unfold flowItems
  cases t with
  | key => exact absurd rfl ht
  | _ =>
    rw [StateT.run_bind, h]
    cases t' with
    | flowSequenceEnd => exact absurd rfl ht'
    | _ =>
      change (flowItems Tag.ofSpelling handles fuel (_ :: ts') >>= fun found =>
        (pure (n :: found.1, found.2) : Drafting (List Nat × List Token))).run d' = _
      rw [StateT.run_bind, h']
      rfl

/-- A member: a name, and the value behind its colon. -/
theorem run_flowPair {t : Token} {ts : List Token} (ht : t ≠ .comma ∧ t ≠ .flowMappingEnd)
    (name : List Point) (hdepth : d.depth ≤ Draft.nestingLimit) {n : Nat} {d' : Draft}
    (h : (node Tag.ofSpelling handles false false (fuel + 1) (t :: ts)).run
      (d.extend [⟨.str, .scalar name⟩]) = .ok ((n, r), d')) :
    (flowPair Tag.ofSpelling handles .flowMappingEnd (fuel + 3)
      (.scalar name false :: .value :: t :: ts)).run d = .ok (((d.graph.size, n), r), d') := by
  have hname : (flowPart Tag.ofSpelling handles .flowMappingEnd (fuel + 2)
      (.scalar name false :: .value :: t :: ts)).run d
      = .ok ((d.graph.size, .value :: t :: ts), d.extend [⟨.str, .scalar name⟩]) := by
    unfold flowPart
    exact run_node_scalar name false hdepth
  have hvalue : (flowValue Tag.ofSpelling handles .flowMappingEnd (fuel + 2)
      (.value :: t :: ts)).run (d.extend [⟨.str, .scalar name⟩]) = .ok ((n, r), d') := by
    unfold flowValue
    dsimp only
    rw [if_neg (by simp [ht])]
    exact h
  unfold flowPair
  rw [StateT.run_bind, hname]
  change (flowValue Tag.ofSpelling handles .flowMappingEnd (fuel + 2) (.value :: t :: ts)
    >>= fun found => (pure ((d.graph.size, found.1), found.2) :
      Drafting ((Nat × Nat) × List Token))).run (d.extend [⟨.str, .scalar name⟩]) = _
  rw [StateT.run_bind, hvalue]
  rfl

/-- The last member of a mapping is the only one left. -/
theorem run_flowPairs_last {ts : List Token} {pair : Nat × Nat} {d' : Draft}
    (h : (flowPair Tag.ofSpelling handles .flowMappingEnd fuel ts).run d
      = .ok ((pair, .flowMappingEnd :: r), d')) :
    (flowPairs Tag.ofSpelling handles (fuel + 1) (.key :: ts)).run d = .ok (([pair], r), d') := by
  unfold flowPairs
  dsimp only
  rw [StateT.run_bind, h]
  rfl

/-- A member that others follow stands in front of them. -/
theorem run_flowPairs_more {t' : Token} {ts ts' : List Token} (ht' : t' ≠ .flowMappingEnd)
    {pair : Nat × Nat} {pairs : List (Nat × Nat)} {d' d'' : Draft}
    (h : (flowPair Tag.ofSpelling handles .flowMappingEnd fuel ts).run d
      = .ok ((pair, .comma :: t' :: ts'), d'))
    (h' : (flowPairs Tag.ofSpelling handles fuel (t' :: ts')).run d' = .ok ((pairs, r), d'')) :
    (flowPairs Tag.ofSpelling handles (fuel + 1) (.key :: ts)).run d
      = .ok ((pair :: pairs, r), d'') := by
  unfold flowPairs
  dsimp only
  rw [StateT.run_bind, h]
  cases t' with
  | flowMappingEnd => exact absurd rfl ht'
  | _ =>
    change (flowPairs Tag.ofSpelling handles fuel (_ :: ts') >>= fun found =>
      (pure (pair :: found.1, found.2) : Drafting (List (Nat × Nat) × List Token))).run d' = _
    rw [StateT.run_bind, h']
    rfl

end Grammar

/-! ## The nodes that tokens make -/

/-- Whether data lie no deeper than collections can, inside so many others. -/
def Form.Shallow (depth : Nat) : Form → Prop
  | .data j => depth + j.levels ≤ Draft.nestingLimit
  | .items js => depth + Json.levelsItems js ≤ Draft.nestingLimit + 1
  | .member m => depth + m.2.levels ≤ Draft.nestingLimit
  | .members ms => depth + Json.levelsMembers ms ≤ Draft.nestingLimit + 1

namespace Form.Shallow

variable {depth : Nat} {j : Json} {js : List Json} {m : Text × Json} {ms : List (Text × Json)}

theorem depth_le (h : (Form.data j).Shallow depth) : depth ≤ Draft.nestingLimit :=
  Nat.le_of_add_right_le h

/-- What brackets hold lies in one collection more. -/
theorem inArray (h : (Form.data (.array js)).Shallow depth) :
    (Form.items js).Shallow (depth + 1) := by
  have hlevels : depth + Json.levelsItems js ≤ Draft.nestingLimit := h
  change depth + 1 + Json.levelsItems js ≤ Draft.nestingLimit + 1
  omega

theorem inObject (h : (Form.data (.object ms)).Shallow depth) :
    (Form.members ms).Shallow (depth + 1) := by
  have hlevels : depth + Json.levelsMembers ms ≤ Draft.nestingLimit := h
  change depth + 1 + Json.levelsMembers ms ≤ Draft.nestingLimit + 1
  omega

theorem item (h : (Form.items (j :: js)).Shallow depth) :
    (Form.data j).Shallow depth ∧ (Form.items js).Shallow depth := by
  have hlevels : depth + max (j.levels + 1) (Json.levelsItems js) ≤ Draft.nestingLimit + 1 := h
  constructor
  · change depth + j.levels ≤ Draft.nestingLimit
    omega
  · change depth + Json.levelsItems js ≤ Draft.nestingLimit + 1
    omega

theorem member (h : (Form.members (m :: ms)).Shallow depth) :
    (Form.member m).Shallow depth ∧ (Form.members ms).Shallow depth := by
  have hlevels : depth + max (m.2.levels + 1) (Json.levelsMembers ms) ≤ Draft.nestingLimit + 1 := h
  constructor
  · change depth + m.2.levels ≤ Draft.nestingLimit
    omega
  · change depth + Json.levelsMembers ms ≤ Draft.nestingLimit + 1
    omega

end Form.Shallow

/-- The first token of data. -/
def Form.Begins : Form → Token → Prop
  | .data _, t | .items _, t => (∃ text isPlain, t = .scalar text isPlain) ∨ t = .flowSequence ∨
      t = .flowMapping
  | .member _, t | .members _, t => t = .key

namespace Form.Begins

variable {t : Token} {j : Json}

theorem ne_key (h : (Form.data j).Begins t) : t ≠ .key := by
  rcases h with ⟨_, _, rfl⟩ | rfl | rfl <;> simp

theorem ne_comma (h : (Form.data j).Begins t) : t ≠ .comma := by
  rcases h with ⟨_, _, rfl⟩ | rfl | rfl <;> simp

theorem ne_mappingEnd (h : (Form.data j).Begins t) : t ≠ .flowMappingEnd := by
  rcases h with ⟨_, _, rfl⟩ | rfl | rfl <;> simp

theorem ne_end {js : List Json} (h : (Form.items js).Begins t) : t ≠ .flowSequenceEnd := by
  rcases h with ⟨_, _, rfl⟩ | rfl | rfl <;> simp

theorem ne_membersEnd {ms : List (Text × Json)} (h : (Form.members ms).Begins t) :
    t ≠ .flowMappingEnd := by
  cases h
  simp

end Form.Begins

theorem Writes.begins {form : Form} {ts : List Token} (h : Writes form ts) :
    ∃ t r, ts = t :: r ∧ form.Begins t := by
  induction h with
  | word _ => exact ⟨_, _, rfl, .inl ⟨_, _, rfl⟩⟩
  | quoted _ => exact ⟨_, _, rfl, .inl ⟨_, _, rfl⟩⟩
  | noItems => exact ⟨_, _, rfl, .inr (.inl rfl)⟩
  | array _ _ => exact ⟨_, _, rfl, .inr (.inl rfl)⟩
  | lastItem _ ih => exact ih
  | item _ _ ih _ =>
    obtain ⟨t, r, rfl, ht⟩ := ih
    exact ⟨t, _, rfl, ht⟩
  | noMembers => exact ⟨_, _, rfl, .inr (.inr rfl)⟩
  | object _ _ => exact ⟨_, _, rfl, .inr (.inr rfl)⟩
  | member _ _ _ => exact ⟨_, _, rfl, rfl⟩
  | lastMember _ ih => exact ih
  | moreMembers _ _ ih _ =>
    obtain ⟨t, r, rfl, ht⟩ := ih
    exact ⟨t, _, rfl, ht⟩

namespace Draft

variable (d : Draft) (nodes nodes' : List Node)

@[simp] theorem extend_extend : (d.extend nodes).extend nodes' = d.extend (nodes ++ nodes') := by
  simp [extend]

@[simp] theorem size_extend : (d.extend nodes).graph.size = d.graph.size + nodes.length := by
  simp [extend, Graph.size]

@[simp] theorem depth_extend : (d.extend nodes).depth = d.depth := rfl

@[simp] theorem size_inside (nd : Node) : (d.inside none nd).graph.size = d.graph.size + 1 := by
  simp [inside, insert, Graph.add, Graph.size]

@[simp] theorem extend_nil : d.extend [] = d := by simp [extend]

end Draft

/-- What the grammar makes of tokens in front of any others, in any document: more nodes, which are
laid out for the data. -/
def Form.Drafts (ts : List Token) : Form → Prop
  | .data j => ∀ (handles : Handles) (inBlock afterKey : Bool) (fuel : Nat) (d : Draft)
      (r : List Token), 3 * ts.length ≤ fuel → (Form.data j).Shallow d.depth → ∃ body nodes,
        Laid (.data j) d.graph.size body nodes ∧
          (Grammar.node Tag.ofSpelling handles inBlock afterKey fuel (ts ++ r)).run d
            = .ok ((d.graph.size, r), d.extend nodes)
  | .items js => ∀ (handles : Handles) (fuel : Nat) (d : Draft) (r : List Token),
      3 * ts.length < fuel → (Form.items js).Shallow d.depth → ∃ items nodes,
        Laid (.items js) d.graph.size (.seq items) nodes ∧
          (Grammar.flowItems Tag.ofSpelling handles fuel (ts ++ .flowSequenceEnd :: r)).run d
            = .ok ((items, r), d.extend nodes)
  | .member m => ∃ ts', ts = .key :: ts' ∧
      ∀ (handles : Handles) (fuel : Nat) (d : Draft) (r : List Token), 3 * ts.length ≤ fuel →
        (Form.member m).Shallow d.depth → ∃ name body nodes, m.1 = .ofList name ∧
          Laid (.data m.2) (d.graph.size + 1) body nodes ∧
            (Grammar.flowPair Tag.ofSpelling handles .flowMappingEnd fuel (ts' ++ r)).run d
              = .ok (((d.graph.size, d.graph.size + 1), r),
                d.extend (⟨.str, .scalar name⟩ :: nodes))
  | .members ms => ∀ (handles : Handles) (fuel : Nat) (d : Draft) (r : List Token),
      3 * ts.length < fuel → (Form.members ms).Shallow d.depth → ∃ pairs nodes,
        Laid (.members ms) d.graph.size (.map pairs) nodes ∧
          (Grammar.flowPairs Tag.ofSpelling handles fuel (ts ++ .flowMappingEnd :: r)).run d
            = .ok ((pairs, r), d.extend nodes)

section Drafts

variable {j : Json} {js : List Json} {m : Text × Json} {ms : List (Text × Json)}
  {ts ts' : List Token}

/-- A word is one node, with the tag of its spelling. -/
theorem drafts_word {w : List Char} (h : (Tag.ofSpelling w).read (w.map .char) = .ok j.toValue) :
    (Form.data j).Drafts [.scalar (w.map .char) true] := by
  intro handles inBlock afterKey fuel d r hfuel hdepth
  obtain ⟨fuel, rfl⟩ : ∃ k, fuel = k + 1 := ⟨fuel - 1, by simp at hfuel; omega⟩
  refine ⟨_, _, .word h, (Grammar.run_node_scalar _ true hdepth.depth_le).trans ?_⟩
  rw [if_pos rfl, Text.shapes_map_char]
  rfl

/-- A quoted text is one node, with the tag of texts. -/
theorem drafts_quoted (text : List Point) :
    (Form.data (.str (.ofList text))).Drafts [.scalar text false] := by
  intro handles inBlock afterKey fuel d r hfuel hdepth
  obtain ⟨fuel, rfl⟩ : ∃ k, fuel = k + 1 := ⟨fuel - 1, by simp at hfuel; omega⟩
  exact ⟨_, _, .quoted text _, Grammar.run_node_scalar _ false hdepth.depth_le⟩

/-- An array without items is one node. -/
theorem drafts_emptyArray : (Form.data (.array [])).Drafts [.flowSequence, .flowSequenceEnd] := by
  intro handles inBlock afterKey fuel d r hfuel hdepth
  obtain ⟨fuel, rfl⟩ : ∃ k, fuel = k + 1 := ⟨fuel - 1, by simp at hfuel; omega⟩
  refine ⟨_, _, .array (.noItems _), ?_⟩
  refine (Grammar.run_node_emptyArray hdepth.depth_le).trans ?_
  refine Grammar.run_collection_eq .seq .seq [] ?_
  rw [Draft.extend_nil]
  rfl

/-- An array with items is a node in front of those of its items. -/
theorem drafts_array (h : Writes (.items js) ts) (ih : (Form.items js).Drafts ts) :
    (Form.data (.array js)).Drafts (.flowSequence :: (ts ++ [.flowSequenceEnd])) := by
  intro handles inBlock afterKey fuel d r hfuel hdepth
  obtain ⟨fuel, rfl⟩ : ∃ k, fuel = k + 1 := ⟨fuel - 1, by simp at hfuel; omega⟩
  obtain ⟨t, ts, rfl, ht⟩ := h.begins
  obtain ⟨items, nodes, hlaid, hrun⟩ := ih handles fuel (d.inside none ⟨.seq, .seq []⟩) r
    (by simp at hfuel ⊢; omega) hdepth.inArray
  rw [Draft.size_inside] at hlaid
  refine ⟨_, _, .array hlaid, ?_⟩
  have hform : .flowSequence :: (t :: ts ++ [.flowSequenceEnd]) ++ r
      = .flowSequence :: (t :: ts ++ .flowSequenceEnd :: r) := by simp
  rw [hform, Grammar.run_node_array hdepth.depth_le]
  · exact Grammar.run_collection_eq .seq .seq [] hrun
  · simpa using ht.ne_end

/-- The nodes of the last item are those of its data. -/
theorem drafts_lastItem (h : Writes (.data j) ts) (ih : (Form.data j).Drafts ts) :
    (Form.items [j]).Drafts ts := by
  intro handles fuel d r hfuel hdepth
  obtain ⟨fuel, rfl⟩ : ∃ k, fuel = k + 1 := ⟨fuel - 1, by omega⟩
  obtain ⟨t, ts, rfl, ht⟩ := h.begins
  obtain ⟨body, nodes, hlaid, hrun⟩ :=
    ih handles false false fuel d (.flowSequenceEnd :: r) (by omega) hdepth.item.1
  refine ⟨_, _, .item hlaid (.noItems _), ?_⟩
  rw [List.append_nil]
  exact Grammar.run_flowItems_last ht.ne_key hrun

/-- The nodes of the other items come after those of the one in front. -/
theorem drafts_item (h : Writes (.data j) ts) (h' : Writes (.items js) ts')
    (ih : (Form.data j).Drafts ts) (ih' : (Form.items js).Drafts ts') :
    (Form.items (j :: js)).Drafts (ts ++ .comma :: ts') := by
  intro handles fuel d r hfuel hdepth
  obtain ⟨fuel, rfl⟩ : ∃ k, fuel = k + 1 := ⟨fuel - 1, by omega⟩
  obtain ⟨hshallow, hshallow'⟩ := hdepth.item
  obtain ⟨t, ts, rfl, ht⟩ := h.begins
  obtain ⟨t', ts', rfl, ht'⟩ := h'.begins
  simp only [List.length_append, List.length_cons] at hfuel
  obtain ⟨body, nodes, hlaid, hrun⟩ := ih handles false false fuel d
    (.comma :: (t' :: ts') ++ .flowSequenceEnd :: r) (by simp; omega) hshallow
  obtain ⟨items, nodes', hlaid', hrun'⟩ :=
    ih' handles fuel (d.extend nodes) r (by simp; omega) hshallow'
  rw [Draft.size_extend] at hlaid'
  rw [Draft.extend_extend] at hrun'
  refine ⟨_, _, .item hlaid hlaid', ?_⟩
  rw [List.append_assoc]
  exact Grammar.run_flowItems_more ht.ne_key ht'.ne_end hrun hrun'

/-- An object without members is one node. -/
theorem drafts_emptyObject : (Form.data (.object [])).Drafts [.flowMapping, .flowMappingEnd] := by
  intro handles inBlock afterKey fuel d r hfuel hdepth
  obtain ⟨fuel, rfl⟩ : ∃ k, fuel = k + 1 := ⟨fuel - 1, by simp at hfuel; omega⟩
  refine ⟨_, _, .object (.noMembers _), ?_⟩
  refine (Grammar.run_node_emptyObject hdepth.depth_le).trans ?_
  refine Grammar.run_collection_eq .map .map [] ?_
  rw [Draft.extend_nil]
  rfl

/-- An object with members is a node in front of those of its members. -/
theorem drafts_object (h : Writes (.members ms) ts) (ih : (Form.members ms).Drafts ts) :
    (Form.data (.object ms)).Drafts (.flowMapping :: (ts ++ [.flowMappingEnd])) := by
  intro handles inBlock afterKey fuel d r hfuel hdepth
  obtain ⟨fuel, rfl⟩ : ∃ k, fuel = k + 1 := ⟨fuel - 1, by simp at hfuel; omega⟩
  obtain ⟨t, ts, rfl, ht⟩ := h.begins
  obtain ⟨pairs, nodes, hlaid, hrun⟩ := ih handles fuel (d.inside none ⟨.map, .map []⟩) r
    (by simp at hfuel ⊢; omega) hdepth.inObject
  rw [Draft.size_inside] at hlaid
  refine ⟨_, _, .object hlaid, ?_⟩
  have hform : .flowMapping :: (t :: ts ++ [.flowMappingEnd]) ++ r
      = .flowMapping :: (t :: ts ++ .flowMappingEnd :: r) := by simp
  rw [hform, Grammar.run_node_object hdepth.depth_le]
  · exact Grammar.run_collection_eq .map .map [] hrun
  · simpa using ht.ne_membersEnd

/-- The nodes of a member are one for its name and those of its value. -/
theorem drafts_member (name : List Point) (h : Writes (.data j) ts) (ih : (Form.data j).Drafts ts) :
    (Form.member (.ofList name, j)).Drafts (.key :: .scalar name false :: .value :: ts) := by
  refine ⟨_, rfl, ?_⟩
  intro handles fuel d r hfuel hdepth
  simp only [List.length_cons] at hfuel
  obtain ⟨fuel, rfl⟩ : ∃ k, fuel = k + 3 := ⟨fuel - 3, by omega⟩
  obtain ⟨t, ts, rfl, ht⟩ := h.begins
  obtain ⟨body, nodes, hlaid, hrun⟩ :=
    ih handles false false (fuel + 1) (d.extend [⟨.str, .scalar name⟩]) r
      (by simp at hfuel ⊢; omega) hdepth
  rw [Draft.size_extend, List.length_singleton] at hlaid hrun
  rw [Draft.extend_extend, List.singleton_append] at hrun
  exact ⟨name, body, nodes, rfl, hlaid,
    Grammar.run_flowPair ⟨ht.ne_comma, ht.ne_mappingEnd⟩ name
      (Nat.le_of_add_right_le hdepth) hrun⟩

/-- The nodes of the last member are the last nodes. -/
theorem drafts_lastMember (ih : (Form.member m).Drafts ts) : (Form.members [m]).Drafts ts := by
  intro handles fuel d r hfuel hdepth
  obtain ⟨fuel, rfl⟩ : ∃ k, fuel = k + 1 := ⟨fuel - 1, by omega⟩
  obtain ⟨ts, rfl, hpair⟩ := ih
  obtain ⟨k, j⟩ := m
  obtain ⟨name, body, nodes, rfl, hlaid, hrun⟩ :=
    hpair handles fuel d (.flowMappingEnd :: r) (by omega) hdepth.member.1
  refine ⟨_, _, .member name hlaid (.noMembers _), ?_⟩
  rw [List.append_nil]
  exact Grammar.run_flowPairs_last hrun

/-- The nodes of the other members come after those of the one in front. -/
theorem drafts_moreMembers (h' : Writes (.members ms) ts') (ih : (Form.member m).Drafts ts)
    (ih' : (Form.members ms).Drafts ts') :
    (Form.members (m :: ms)).Drafts (ts ++ .comma :: ts') := by
  intro handles fuel d r hfuel hdepth
  obtain ⟨fuel, rfl⟩ : ∃ k, fuel = k + 1 := ⟨fuel - 1, by omega⟩
  obtain ⟨hshallow, hshallow'⟩ := hdepth.member
  obtain ⟨k, j⟩ := m
  obtain ⟨ts, rfl, hpair⟩ := ih
  obtain ⟨t', ts', rfl, ht'⟩ := h'.begins
  simp only [List.length_append, List.length_cons] at hfuel
  obtain ⟨name, body, nodes, rfl, hlaid, hrun⟩ := hpair handles fuel d
    (.comma :: (t' :: ts') ++ .flowMappingEnd :: r) (by simp; omega) hshallow
  obtain ⟨pairs, nodes', hlaid', hrun'⟩ := ih' handles fuel
    (d.extend (⟨.str, .scalar name⟩ :: nodes)) r (by simp; omega) hshallow'
  rw [Draft.size_extend, List.length_cons, ← Nat.add_assoc, Nat.add_right_comm] at hlaid'
  rw [Draft.extend_extend] at hrun'
  refine ⟨_, _, .member name hlaid hlaid', ?_⟩
  rw [List.append_assoc]
  exact Grammar.run_flowPairs_more ht'.ne_membersEnd hrun hrun'

end Drafts

/-- **Tokens that write data make the nodes of the data.** -/
theorem Writes.drafts {form : Form} {ts : List Token} (h : Writes form ts) : form.Drafts ts := by
  induction h with
  | word h => exact drafts_word h
  | quoted text => exact drafts_quoted text
  | noItems => exact drafts_emptyArray
  | array h ih => exact drafts_array h ih
  | lastItem h ih => exact drafts_lastItem h ih
  | item h h' ih ih' => exact drafts_item h h' ih ih'
  | noMembers => exact drafts_emptyObject
  | object h ih => exact drafts_object h ih
  | member name h ih => exact drafts_member name h ih
  | lastMember _ ih => exact drafts_lastMember ih
  | moreMembers _ h' ih ih' => exact drafts_moreMembers h' ih ih'

/-- **The document of tokens that write data** has the nodes of the data, from the first number
on. -/
theorem Writes.ofTokens {j : Json} {ts : List Token} (h : Writes (.data j) ts)
    (hlevels : j.levels ≤ Draft.nestingLimit) : ∃ body nodes, Laid (.data j) 0 body nodes ∧
      Graph.ofTokens? Tag.ofSpelling ts = .ok (some (⟨nodes.toArray⟩, 0)) := by
  obtain ⟨t, r, rfl, ht⟩ := h.begins
  have hshallow : (Form.data j).Shallow Draft.empty.depth := by
    change 0 + j.levels ≤ Draft.nestingLimit
    omega
  obtain ⟨body, nodes, hlaid, hrun⟩ :=
    h.drafts .default true false (3 * (t :: r).length + 3) .empty []
    (Nat.le_add_right ..) hshallow
  have hdocument : Grammar.document Tag.ofSpelling (3 * (t :: r).length + 3) (t :: r)
      = Grammar.node Tag.ofSpelling .default true false (3 * (t :: r).length + 3) (t :: r) := by
    rcases ht with ⟨text, isPlain, rfl⟩ | rfl | rfl <;> rfl
  rw [List.append_nil] at hrun
  refine ⟨body, nodes, hlaid, ?_⟩
  rw [Graph.ofTokens?_eq (List.cons_ne_nil _ _), hdocument, hrun]
  have hgraph : (Draft.empty.extend nodes).graph = ⟨nodes.toArray⟩ := by
    simp [Draft.extend, Draft.empty, Graph.empty]
  change Except.ok (some ((Draft.empty.extend nodes).graph, 0)) = _
  rw [hgraph]

end Yaml

end LintBundle
