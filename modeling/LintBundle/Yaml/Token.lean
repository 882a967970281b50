import LintBundle.Yaml.Glyph

/-!
# Yaml/Token — the pieces a YAML text is made of

Besides the marks that stand in the text, the tokens make its indentation explicit: a block
sequence or mapping is opened where a line is indented further and closed where one is indented
less, and a key that only its colon gives away has a token in front of it.  Where a text cannot be
read any further, its tokens end in one that says why.
-/

namespace LintBundle.Yaml

/-- A line in front of a document. -/
inductive Directive
  | version (major : Nat)
  | tag (handle uri : List Char)
  | other
  deriving DecidableEq, Repr

/-- A piece of a text. -/
inductive Token
  | directive (d : Directive)
  | documentStart
  | documentEnd
  | blockSequence
  | blockMapping
  | blockEnd
  | flowSequence
  | flowSequenceEnd
  | flowMapping
  | flowMappingEnd
  | entry
  | comma
  | key
  | value
  | aliasOf (name : List Char)
  | anchor (name : List Char)
  /-- A tag as it is written; one without a handle is complete. -/
  | tag (handle : Option (List Char)) (suffix : List Char)
  | scalar (text : List Point) (isPlain : Bool)
  /-- The place from which on the text cannot be read. -/
  | unreadable (cause : TextFault)
  deriving DecidableEq, Repr

end LintBundle.Yaml
