import LintBundle.Yaml.Token.Lexer
import LintBundle.Yaml.Node.Grammar
import LintBundle.Yaml.Node.Content

/-!
# Yaml — YAML text as data

A text is read in three steps: as tokens, which make its indentation explicit, as a graph of nodes
with their tags, and as the value the graph denotes.  An empty text is `null`.
-/

namespace LintBundle.Yaml

/-- The value that tokens write, where plain scalars have the tags that `resolve` gives them. -/
def valueOf (resolve : List Char → Tag) (ts : List Token) : Except TextFault Value := do
  match ← Graph.ofTokens? resolve ts with
  | none => return .null
  | some (graph, root) => graph.content root

/-- **The value a YAML text writes.** -/
def read (cs : List Char) : Except TextFault Value := valueOf Tag.ofSpelling (Token.scan cs)

end LintBundle.Yaml
