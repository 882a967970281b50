import LintBundle.Yaml.Tag

/-!
# Yaml/Node — a document as a graph of nodes

Every node of a document has a number and a tag.  A collection holds the numbers of its parts, and
an alias is the number of the node with its anchor; as that can be one of the nodes around it, the
nodes of a document are a graph and not a tree.
-/

namespace LintBundle.Yaml

/-- What a node holds. -/
inductive Body
  | scalar (text : List Point)
  | seq (items : List Nat)
  | map (pairs : List (Nat × Nat))
  deriving DecidableEq, Repr

/-- A node of a document. -/
structure Node where
  tag : Tag
  body : Body
  deriving DecidableEq, Repr

/-- The node of an empty place. -/
def Node.empty : Node := ⟨.null, .scalar []⟩

instance : Inhabited Node := ⟨.empty⟩

/-- The nodes of a document by number. -/
structure Graph where
  nodes : Array Node
  deriving Repr

namespace Graph

/-- The graph without nodes. -/
def empty : Graph := ⟨#[]⟩

instance : Inhabited Graph := ⟨empty⟩

/-- The node with a number. -/
def node (g : Graph) (number : Nat) : Node := g.nodes.getD number .empty

/-- The tag of the node with a number. -/
def tag (g : Graph) (number : Nat) : Tag := (g.node number).tag

/-- The body of the node with a number. -/
def body (g : Graph) (number : Nat) : Body := (g.node number).body

/-- Adds a node, whose number is the count of nodes before. -/
def add (g : Graph) (node : Node) : Graph := ⟨g.nodes.push node⟩

/-- Gives a node another tag. -/
def setTag (g : Graph) (number : Nat) (tag : Tag) : Graph :=
  ⟨g.nodes.modify number fun node => { node with tag := tag }⟩

/-- Gives a node another body. -/
def setBody (g : Graph) (number : Nat) (body : Body) : Graph :=
  ⟨g.nodes.modify number fun node => { node with body := body }⟩

/-- The number of nodes. -/
def size (g : Graph) : Nat := g.nodes.size

end Graph

end LintBundle.Yaml
