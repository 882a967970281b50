import LintBundle.Yaml.Node
import LintBundle.Yaml.Token

/-!
# Yaml/Node/Grammar — tokens as a graph of nodes

One function for each form of a collection; each takes the tokens from the collection's first item
on and returns the numbers of its parts with the tokens after its end.  A place without a node
holds an empty one.

A scalar without a tag has the one that its spelling suggests, by rules that `resolve` stands for.
The tokens are gone through from left to right, and every node is added where it begins, so of
several faults the first one in the text is found.
-/

namespace LintBundle.Yaml

/-- A document that is being read: its nodes and its anchors so far, and the number of collections
around the place that is reached. -/
structure Draft where
  graph : Graph
  anchors : List (List Char × Nat)
  depth : Nat

/-- A step of reading a document. -/
abbrev Drafting := StateT Draft (Except TextFault)

namespace Draft

/-- The document of which nothing is read. -/
def empty : Draft := ⟨.empty, [], 0⟩

instance : Inhabited Draft := ⟨empty⟩

/-- The node with an anchor. -/
def find (draft : Draft) (name : List Char) : Option Nat :=
  (draft.anchors.find? fun (n, _) => n = name).map Prod.snd

/-- The document with one more node. -/
def insert (draft : Draft) (anchor : Option (List Char)) (node : Node) : Nat × Draft :=
  let number := draft.graph.size
  let anchors := match anchor with
    | none => draft.anchors
    | some name => (name, number) :: draft.anchors
  (number, { draft with graph := draft.graph.add node, anchors := anchors })

/-- Adds a node; its anchor has to be new. -/
def add (anchor : Option (List Char)) (node : Node) : Drafting Nat := do
  if (anchor.bind (← get).find).isSome then throw .malformed
  modifyGet fun draft => draft.insert anchor node

/-- Adds the node of an empty place. -/
def addEmpty : Drafting Nat := add none .empty

/-- The node an alias stands for; its anchor has to come before. -/
def target (name : List Char) : Drafting Nat := do
  match (← get).find name with
  | some number => return number
  | none => throw .malformed

/-- Gives a node its body. -/
def fill (number : Nat) (body : Body) : Drafting Unit :=
  modify fun draft => { draft with graph := draft.graph.setBody number body }

/-- How deep collections can lie in one another. -/
def nestingLimit : Nat := 485

/-- Fails where collections lie too deep in one another. -/
def checkDepth : Drafting Unit := do if nestingLimit < (← get).depth then throw .tooDeep

/-- A step inside one more collection. -/
def within {α : Type} (step : Drafting α) : Drafting α := do
  modify fun draft => { draft with depth := draft.depth + 1 }
  let found ← step
  modify fun draft => { draft with depth := draft.depth - 1 }
  return found

end Draft

/-- What the handles of tags stand for. -/
abbrev Handles := List (List Char × List Char)

/-- The handles that need no directive. -/
def Handles.default : Handles := [(['!'], ['!']), (['!', '!'], Tag.family)]

/-- A tag written in full. -/
def Handles.expand (handles : Handles) (handle : Option (List Char)) (suffix : List Char) :
    Except TextFault (List Char) :=
  match handle with
  | none => .ok suffix
  | some h =>
    match handles.find? fun (name, _) => name = h with
    | some (_, uri) => .ok (uri ++ suffix)
    | none => .error .malformed

/-- The fault of tokens that cannot stand where they do. -/
def refusal : List Token → TextFault
  | .unreadable cause :: _ => cause
  | _ => .malformed

/-- The anchor and the tag in front of a node. -/
structure Properties where
  anchor : Option (List Char)
  tag : Option (List Char)

namespace Properties

/-- The properties in front, in either order. -/
def take (handles : Handles) : List Token → Except TextFault (Properties × List Token)
  | .tag _ _ :: .unreadable cause :: _ => .error cause
  | .anchor name :: .tag h s :: r => do return (⟨name, ← handles.expand h s⟩, r)
  | .tag h s :: .anchor name :: r => do return (⟨name, ← handles.expand h s⟩, r)
  | .anchor name :: r => .ok (⟨name, none⟩, r)
  | .tag h s :: r => do return (⟨none, ← handles.expand h s⟩, r)
  | ts => .ok (⟨none, none⟩, ts)

/-- The tag, if it is a definite one: a mark alone is not. -/
def definite (p : Properties) : Option Tag :=
  (p.tag.filter (· ≠ ['!'])).map Tag.ofUri

/-- Whether there is nothing in front. -/
def isEmpty (p : Properties) : Bool := p.anchor.isNone && p.tag.isNone

/-- Adds a scalar with these properties; `resolve` says which tag its spelling suggests. -/
def scalar (resolve : List Char → Tag) (p : Properties) (text : List Point) (isPlain : Bool) :
    Drafting Nat :=
  let suggested := if isPlain || p.tag.isSome then resolve (Text.shapes text) else .str
  Draft.add p.anchor ⟨p.definite.getD suggested, .scalar text⟩

/-- Adds a sequence with these properties, whose items are read after it. -/
def seq (p : Properties) (items : Drafting (List Nat × List Token)) :
    Drafting (Nat × List Token) := do
  let number ← Draft.add p.anchor ⟨p.definite.getD .seq, .seq []⟩
  let (items, rest) ← Draft.within items
  Draft.fill number (.seq items)
  return (number, rest)

/-- Adds a mapping with these properties, whose pairs are read after it. -/
def map (p : Properties) (pairs : Drafting (List (Nat × Nat) × List Token)) :
    Drafting (Nat × List Token) := do
  let number ← Draft.add p.anchor ⟨p.definite.getD .map, .map []⟩
  let (pairs, rest) ← Draft.within pairs
  Draft.fill number (.map pairs)
  return (number, rest)

/-- What stands where no node does: an empty one with these properties, which there have to be. -/
def nothing (resolve : List Char → Tag) (p : Properties) (ts : List Token) :
    Drafting (Nat × List Token) :=
  match ts with
  | .unreadable cause :: _ => throw cause
  | ts => if p.isEmpty then throw .malformed else do return (← p.scalar resolve [] true, ts)

end Properties

namespace Grammar

variable (resolve : List Char → Tag)

mutual

/-- A node.  Block collections begin only where `inBlock` allows them, and a sequence that is not
indented further than its key only where `afterKey` does; `fuel` bounds the steps. -/
def node (handles : Handles) (inBlock afterKey : Bool) :
    Nat → List Token → Drafting (Nat × List Token)
  | 0, _ => throw .malformed
  | fuel + 1, ts => do
    Draft.checkDepth
    match ts with
    | .aliasOf name :: r => return (← Draft.target name, r)
    | ts =>
      let (p, ts) ← Properties.take handles ts
      match ts with
      | .entry :: _ => if afterKey then p.seq (bareItems handles fuel ts) else p.nothing resolve ts
      | .scalar text isPlain :: r => return (← p.scalar resolve text (isPlain && p.tag.isNone), r)
      | .flowSequence :: .flowSequenceEnd :: r => p.seq (pure ([], r))
      | .flowSequence :: r => p.seq (flowItems handles fuel r)
      | .flowMapping :: .flowMappingEnd :: r => p.map (pure ([], r))
      | .flowMapping :: r => p.map (flowPairs handles fuel r)
      | .blockSequence :: r =>
        if inBlock then p.seq (blockItems handles fuel r) else p.nothing resolve ts
      | .blockMapping :: r =>
        if inBlock then p.map (blockPairs handles fuel r) else p.nothing resolve ts
      | ts => p.nothing resolve ts

/-- The items of a block sequence. -/
def blockItems (handles : Handles) : Nat → List Token → Drafting (List Nat × List Token)
  | 0, _ => throw .malformed
  | fuel + 1, ts =>
    match ts with
    | .blockEnd :: r => return ([], r)
    | .entry :: r => do
      let (item, rest) ←
        match r with
        | .entry :: _ | .blockEnd :: _ => pure (← Draft.addEmpty, r)
        | r => node handles true false fuel r
      let (items, rest) ← blockItems handles fuel rest
      return (item :: items, rest)
    | ts => throw (refusal ts)

/-- The items of a sequence that ends where no further entry follows. -/
def bareItems (handles : Handles) : Nat → List Token → Drafting (List Nat × List Token)
  | 0, _ => throw .malformed
  | fuel + 1, ts =>
    match ts with
    | .entry :: r => do
      let (item, rest) ←
        match r with
        | .entry :: _ | .key :: _ | .value :: _ | .blockEnd :: _ => pure (← Draft.addEmpty, r)
        | r => node handles true false fuel r
      let (items, rest) ← bareItems handles fuel rest
      return (item :: items, rest)
    | .unreadable cause :: _ => throw cause
    | ts => return ([], ts)

/-- A key or a value of a block mapping, after its token. -/
def blockPart (handles : Handles) : Nat → List Token → Drafting (Nat × List Token)
  | 0, _ => throw .malformed
  | fuel + 1, ts =>
    match ts with
    | .key :: _ | .value :: _ | .blockEnd :: _ => do return (← Draft.addEmpty, ts)
    | ts => node handles true true fuel ts

/-- The pairs of a block mapping. -/
def blockPairs (handles : Handles) : Nat → List Token → Drafting (List (Nat × Nat) × List Token)
  | 0, _ => throw .malformed
  | fuel + 1, ts =>
    match ts with
    | .blockEnd :: r => return ([], r)
    | .key :: r => do
      let (k, rest) ← blockPart handles fuel r
      let (v, rest) ←
        match rest with
        | .value :: r => blockPart handles fuel r
        | .unreadable cause :: _ => throw cause
        | rest => pure (← Draft.addEmpty, rest)
      let (pairs, rest) ← blockPairs handles fuel rest
      return ((k, v) :: pairs, rest)
    | ts => throw (refusal ts)

/-- A key or a value in a flow collection with an end of its own, after its token. -/
def flowPart (handles : Handles) (closing : Token) : Nat → List Token → Drafting (Nat × List Token)
  | 0, _ => throw .malformed
  | fuel + 1, ts =>
    match ts with
    | t :: _ => do
      if t = .value || t = .comma || t = closing then return (← Draft.addEmpty, ts)
      else node handles false false fuel ts
    | [] => throw .malformed

/-- The value of a pair in a flow collection. -/
def flowValue (handles : Handles) (closing : Token) : Nat → List Token → Drafting (Nat × List Token)
  | 0, _ => throw .malformed
  | fuel + 1, ts =>
    match ts with
    | .value :: t :: r => do
      if t = .comma || t = closing then return (← Draft.addEmpty, t :: r)
      else node handles false false fuel (t :: r)
    | .value :: [] => throw .malformed
    | .unreadable cause :: _ => throw cause
    | ts => do return (← Draft.addEmpty, ts)

/-- The pair after a key's token, in a flow collection. -/
def flowPair (handles : Handles) (closing : Token) :
    Nat → List Token → Drafting ((Nat × Nat) × List Token)
  | 0, _ => throw .malformed
  | fuel + 1, ts => do
    let (k, rest) ← flowPart handles closing fuel ts
    let (v, rest) ← flowValue handles closing fuel rest
    return ((k, v), rest)

/-- The items of a flow sequence, of which there is one in front; a pair is a mapping of its own. -/
def flowItems (handles : Handles) : Nat → List Token → Drafting (List Nat × List Token)
  | 0, _ => throw .malformed
  | fuel + 1, ts => do
    let (item, rest) ←
      match ts with
      | .key :: r =>
        Properties.map ⟨none, none⟩ do
          let (pair, rest) ← flowPair handles .flowSequenceEnd fuel r
          return ([pair], rest)
      | ts => node handles false false fuel ts
    match rest with
    | .flowSequenceEnd :: r | .comma :: .flowSequenceEnd :: r => return ([item], r)
    | .comma :: r =>
      let (items, rest) ← flowItems handles fuel r
      return (item :: items, rest)
    | rest => throw (refusal rest)

/-- The pairs of a flow mapping, of which there is one in front; a node alone is a key. -/
def flowPairs (handles : Handles) : Nat → List Token → Drafting (List (Nat × Nat) × List Token)
  | 0, _ => throw .malformed
  | fuel + 1, ts => do
    let (pair, rest) ←
      match ts with
      | .key :: r => flowPair handles .flowMappingEnd fuel r
      | ts => do
        let (k, rest) ← node handles false false fuel ts
        pure ((k, ← Draft.addEmpty), rest)
    match rest with
    | .flowMappingEnd :: r | .comma :: .flowMappingEnd :: r => return ([pair], r)
    | .comma :: r =>
      let (pairs, rest) ← flowPairs handles fuel r
      return (pair :: pairs, rest)
    | rest => throw (refusal rest)

end

/-! ## Documents -/

/-- The handles that directives declare, with the tokens after them.  There is one version at most,
of the first major number, and no handle is declared twice. -/
def directives (hasVersion : Bool) (handles : Handles) :
    List Token → Except TextFault (Handles × List Token)
  | .directive (.version major) :: r =>
    if hasVersion || major ≠ 1 then .error .malformed else directives true handles r
  | .directive (.tag handle uri) :: r =>
    if handles.any fun (name, _) => name = handle then .error .malformed
    else directives hasVersion ((handle, uri) :: handles) r
  | .directive .other :: r => directives hasVersion handles r
  | ts => .ok (handles ++ .default, ts)

/-- The node after a document's first line. -/
def content (handles : Handles) (fuel : Nat) (ts : List Token) : Drafting (Nat × List Token) :=
  match ts with
  | [] | .directive _ :: _ | .documentStart :: _ | .documentEnd :: _ => do
    return (← Draft.addEmpty, ts)
  | ts => node resolve handles true false fuel ts

/-- A document, with its first line or without. -/
def document (fuel : Nat) (ts : List Token) : Drafting (Nat × List Token) :=
  match ts with
  | .directive _ :: _ | .documentStart :: _ => do
    let (handles, rest) ← directives false [] ts
    match rest with
    | .documentStart :: r => content resolve handles fuel r
    | rest => throw (refusal rest)
  | ts => node resolve .default true false fuel ts

/-- What may follow a document: nothing but lines that end it. -/
def ending : List Token → Except TextFault Unit
  | [] => .ok ()
  | .documentEnd :: r => ending r
  | ts => do
    let (_, rest) ← directives false [] ts
    .error (refusal rest)

end Grammar

/-- **The document that tokens write**, as a graph and the number of its root; there is one at
most. -/
def Graph.ofTokens? (resolve : List Char → Tag) (ts : List Token) :
    Except TextFault (Option (Graph × Nat)) :=
  if ts.isEmpty then .ok none
  else do
    let ((root, rest), draft) ← (Grammar.document resolve (3 * ts.length + 3) ts).run .empty
    Grammar.ending rest
    return some (draft.graph, root)

end LintBundle.Yaml
