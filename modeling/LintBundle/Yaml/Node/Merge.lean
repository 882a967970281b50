import LintBundle.Fault
import LintBundle.Yaml.Node

/-!
# Yaml/Node/Merge — mappings that take in others

A mapping may merge others in, whose pairs come in front of its own; of several merged mappings the
later ones come first, so that the earlier ones have the last word.  Merging takes place in the
graph: a merged mapping is merged itself before, once for all places that name it.  A mapping that
merges itself finds the pairs it has by then.
-/

namespace LintBundle.Yaml

/-- The numbers of a key and its value. -/
abbrev Pair := Nat × Nat

/-- A step that changes a graph. -/
abbrev Merging := StateT Graph (Except TextFault)

namespace Graph

/-- The pairs of a mapping; other nodes have none. -/
def pairs (g : Graph) (number : Nat) : List Pair :=
  match g.body number with
  | .map pairs => pairs
  | _ => []

/-- The value of the first pair that merges, and all other pairs. -/
def firstMerge (g : Graph) : List Pair → Option (Nat × List Pair)
  | [] => none
  | (k, v) :: rest =>
    if g.tag k = .merge then some (v, rest)
    else (g.firstMerge rest).map fun (found, others) => (found, (k, v) :: others)

/-- Makes the keys that stand for the value of a mapping ordinary texts. -/
def settleKeys (g : Graph) (pairs : List Pair) : Graph :=
  pairs.foldl (fun g (k, _) => if g.tag k = .value then g.setTag k .str else g) g

/-- The number of pairs that merge, in all mappings. -/
def mergeCount (g : Graph) : Nat :=
  g.nodes.foldl (fun n node =>
    match node.body with
    | .map pairs => pairs.foldl (fun n (k, _) => if g.tag k = .merge then n + 1 else n) n
    | _ => n) 0

mutual

/-- Merges into a mapping what it takes in, and returns all its pairs.  Every step but one for each
mapping takes a pair out of the graph that merges, which bounds `fuel`. -/
def merged : Nat → Nat → Merging (List Pair)
  | 0, _ => throw .malformed
  | fuel + 1, number => do
    match (← get).body number with
    | .map _ =>
      let taken ← takenIn fuel number
      let all := taken ++ (← get).pairs number
      modify fun g => (g.setBody number (.map all)).settleKeys all
      return all
    | _ => throw .malformed

/-- Takes the pairs that merge out of a mapping, and returns the pairs they bring in. -/
def takenIn : Nat → Nat → Merging (List Pair)
  | 0, _ => throw .malformed
  | fuel + 1, number => do
    let g ← get
    match g.firstMerge (g.pairs number) with
    | none => return []
    | some (v, others) =>
      set (g.setBody number (.map others))
      let found ←
        match g.body v with
        | .seq items => (fun found => found.reverse.flatten) <$> items.mapM (merged fuel)
        | _ => merged fuel v
      return found ++ (← takenIn fuel number)

end

/-- **The pairs of a mapping with all that it takes in.** -/
def mergedPairs (number : Nat) : Merging (List Pair) := do
  merged (2 * (← get).mergeCount + 2) number

end Graph

end LintBundle.Yaml
