import LintBundle.Yaml.Node.Merge
import LintBundle.Yaml.Tag.Reading

/-!
# Yaml/Node/Content — what a document denotes

Every node denotes one piece of data, wherever it is named.  A repeated key takes the last value in
the place of the first.  The nodes are gone through level by level, a container's parts before the
parts of any of them, so of several faults the one found first on this way is reported; mappings
are merged on the same way.

The data is a value once the containers that lead back to themselves are labelled: the label is
the number of the node.
-/

namespace LintBundle.Yaml

/-- What a node denotes, its parts by their numbers. -/
inductive Datum
  /-- A value without parts; `isConstant` marks the one `nan` that is the same wherever it is
  written. -/
  | scalar (value : Value) (isConstant : Bool)
  | list (items : List Nat)
  | couples (pairs : List Pair)
  | map (pairs : List Pair)
  | set (items : List Nat)
  deriving Repr

/-- A document whose data is being found: the graph, the data of each node that was reached, and
the containers whose parts are still to be found, the latest first. -/
structure Search where
  graph : Graph
  data : Array (Option Datum)
  pending : List (Nat × Tag)

/-- A step of finding data. -/
abbrev Searching := StateT Search (Except TextFault)

/-! ## Texts -/

/-- The text of a node that is read as a scalar; a mapping may have one as its value. -/
def Graph.scalarText (g : Graph) : Nat → Nat → Except TextFault (List Point)
  | 0, _ => .error .tooDeep
  | fuel + 1, number =>
    match g.body number with
    | .scalar text => .ok text
    | .map pairs =>
      match pairs.find? fun (k, _) => g.tag k = .value with
      | some (_, v) => g.scalarText fuel v
      | none => .error .malformed
    | .seq _ => .error .malformed

/-- The data of a node that is read as a scalar; a date has to be a text of its own. -/
def Graph.scalar (g : Graph) (number : Nat) : Except TextFault Datum := do
  let tag := g.tag number
  if !tag.isScalar then .error .malformed
  let text ← g.scalarText (g.size + 1) number
  match tag, g.body number with
  | .timestamp, .map _ => .error .notDateText
  | tag, _ => return .scalar (← tag.read text) (tag = .float && Tag.isNanWord (Text.shapes text))

/-! ## The search -/

/-- The container of a tag without its parts. -/
def Datum.empty? : Tag → Option Datum
  | .seq => some (.list [])
  | .omap | .pairs => some (.couples [])
  | .map => some (.map [])
  | .set => some (.set [])
  | _ => none

namespace Search

/-- The data of a node that was reached. -/
def datum? (s : Search) (number : Nat) : Option Datum := s.data.getD number none

/-- Notes the data of a node. -/
def note (number : Nat) (datum : Datum) : Searching Unit :=
  modify fun s => { s with data := s.data.setIfInBounds number (some datum) }

/-- Whether two keys are one key: the same node, or data that is one key. -/
def isSameKey (s : Search) (k l : Nat) : Bool :=
  k = l ||
    match s.datum? k, s.datum? l with
    | some (.scalar v b), some (.scalar w c) => v.same w || (b && c)
    | _, _ => false

/-- Adds a pair at the end, or gives the pair of that key a new value in its old place. -/
def putPair (s : Search) (pairs : List Pair) (k v : Nat) : List Pair :=
  match pairs with
  | [] => [(k, v)]
  | (l, w) :: rest => if s.isSameKey l k then (l, v) :: rest else (l, w) :: s.putPair rest k v

/-- Reaches a node: what it denotes is found unless it is known, a container without its parts. -/
def reach (number : Nat) : Searching Unit := do
  let s ← get
  if (s.datum? number).isSome then return
  let tag := s.graph.tag number
  match Datum.empty? tag with
  | some datum =>
    note number datum
    modify fun s => { s with pending := (number, tag) :: s.pending }
  | none => note number (← s.graph.scalar number)

/-- Reaches a key, which is no container. -/
def reachKey (number : Nat) : Searching Unit := do
  reach number
  match (← get).datum? number with
  | some (.scalar ..) => return
  | _ => throw .malformed

/-- The pairs of a mapping with what it merges in. -/
def mergedPairs (number : Nat) : Searching (List Pair) := do
  let (pairs, graph) ← (Graph.mergedPairs number).run (← get).graph
  modify fun s => { s with graph := graph }
  return pairs

/-- The key and the value of a mapping that has no other. -/
def couple (number : Nat) : Searching Pair := do
  match (← get).graph.body number with
  | .map [(k, v)] =>
    reach k
    reach v
    return (k, v)
  | _ => throw .malformed

/-- Finds the parts of a container. -/
def openOne (number : Nat) (tag : Tag) : Searching Unit := do
  match (← get).graph.body number, tag with
  | .seq items, .seq =>
    items.forM reach
    note number (.list items)
  | .seq items, .omap | .seq items, .pairs =>
    note number (.couples (← items.mapM couple))
  | .map _, .map | .map _, .set =>
    let pairs ← (← mergedPairs number).foldlM (fun pairs (k, v) => do
      reachKey k
      reach v
      return (← get).putPair pairs k v) []
    note number (if tag = .set then .set (pairs.map Prod.fst) else .map pairs)
  | _, _ => throw .malformed

/-- Finds the parts of all containers, level by level; there are no more levels than nodes. -/
def openAll : Nat → Searching Unit
  | 0 => return
  | fuel + 1 => do
    let level := (← get).pending.reverse
    if level.isEmpty then return
    modify fun s => { s with pending := [] }
    level.forM fun (number, tag) => openOne number tag
    openAll fuel

/-! ## Values -/

/-- A container with its label if it leads back to itself, as it does if a part leads back to it or
to a container around it; and the labels it leads back to outside. -/
def labelled (number : Nat) (v : Value) (leads : List Nat) : Value × List Nat :=
  if leads.isEmpty then (v, []) else (.cyclic number v, leads.filter (· ≠ number))

/-- The value of a node, given the containers around it, and the labels it leads back to; the path
to a node passes no container twice, so there are no more levels than nodes. -/
def value (s : Search) : Nat → List Nat → Nat → Value × List Nat
  | 0, _, number => (.back number, [number])
  | fuel + 1, around, number =>
    if around.contains number then (.back number, [number])
    else
      let part := s.value fuel (number :: around)
      let close (wrap : List Value → Value) (parts : List (Value × List Nat)) :=
        labelled number (wrap (parts.map Prod.fst)) (parts.flatMap Prod.snd)
      let closePairs (wrap : List (Value × Value) → Value) (pairs : List Pair) :=
        let parts := pairs.map fun (k, v) => (part k, part v)
        labelled number (wrap (parts.map fun (k, v) => (k.1, v.1)))
          (parts.flatMap fun (k, v) => k.2 ++ v.2)
      match s.datum? number with
      | none => (.null, [])
      | some (.scalar v _) => (v, [])
      | some (.list items) => close .list (items.map part)
      | some (.set items) => close .ofMembers (items.map part)
      | some (.map pairs) => closePairs .map pairs
      | some (.couples pairs) =>
        closePairs (fun es => .list (es.map fun (k, v) => .tuple [k, v])) pairs

end Search

/-- **What a document denotes.** -/
def Graph.content (g : Graph) (root : Nat) : Except TextFault Value := do
  let search : Searching Unit := do
    Search.reach root
    Search.openAll (g.size + 1)
  let (_, s) ← search.run ⟨g, Array.replicate g.size none, []⟩
  return (s.value (g.size + 1) [] root).1

end LintBundle.Yaml
