import LintBundle.Bundle
import LintBundle.Json.Printer

/-!
# Module/Text — a bundle as the text of a module

The text has an import for each rule, a cache that finds the imports by canonical id, a resolver
that looks into the cache, and the table of rules.  Paths and ids are single-quoted literals: the
quote, the backslash and the characters that end a line are escaped, everything else stands for
itself.  The table is JSON, which is valid in a module.
-/

namespace LintBundle

/-! ## Literals -/

namespace Quoted

/-- A character inside a literal. -/
def escape (c : Char) : List Char :=
  if c = '\\' then ['\\', '\\']
  else if c = '\'' then ['\\', '\'']
  else if c = '\n' then ['\\', 'n']
  else if c = '\r' then ['\\', 'r']
  else if c = '\u2028' then "\\u2028".toList
  else if c = '\u2029' then "\\u2029".toList
  else [c]

/-- A code point inside a literal. -/
def escapePoint : Point → List Point
  | .char c => (escape c).map .char
  | .half i => [.half i]

/-- A text as a literal. -/
def encode (ps : List Point) : List Point := .char '\'' :: ps.flatMap escapePoint ++ [.char '\'']

/-- **The literal of a text.** -/
def literal (t : Text) : Text := .ofList (encode t.toList)

end Quoted

/-! ## Statements -/

namespace Bundle

/-- The part of every module that looks rules up in the cache. -/
def resolverSource : String :=
  "\n".intercalate [
    "/**",
    " * A resolver that serves rules cached as part of the bundle,",
    " * making them accessible without a module system lookup.",
    " */",
    "function Resolver() \x7b\x7d",
    "",
    "Resolver.prototype.resolveRule = function(pkg, ruleName) \x7b",
    "  const rule = cache[pkg + '/' + ruleName];",
    "",
    "  if (!rule) \x7b",
    "    throw new Error('cannot resolve rule <' + pkg + '/' + ruleName + '>');",
    "  \x7d",
    "",
    "  return rule;",
    "\x7d;",
    "",
    "Resolver.prototype.resolveConfig = function(pkg, configName) \x7b",
    "  throw new Error('cannot resolve config <' + configName + '> in <' + pkg + '>');",
    "\x7d;",
    "",
    "const resolver = new Resolver();"]

/-- The statement of an import. -/
def importLine (record : ImportRecord) : Text :=
  "import " ++ record.identifier ++ " from " ++ Quoted.literal record.path ++ ";"

/-- The statement of a cache entry. -/
def cacheLine (entry : Text × Text) : Text :=
  "cache[" ++ Quoted.literal entry.1 ++ "] = " ++ entry.2 ++ ";"

/-- The statements of a module, in order, around the JSON text of the rules. -/
def sections (b : Bundle) (rules : Text) : List Text :=
  [ Text.intercalate "\n" (b.imports.map importLine),
    Text.intercalate "\n" ("const cache = \x7b\x7d;" :: b.cache.map cacheLine),
    resolverSource,
    "const rules = " ++ rules ++ ";",
    "const config = \x7b rules: rules \x7d;",
    "const bundle = \x7b resolver: resolver, config: config \x7d;",
    "export \x7b resolver, config \x7d;",
    "export default bundle;" ]

/-- **The text of a module**, its rules indented by so many blanks; less than none is none. -/
def moduleText (indent : Int) (b : Bundle) : Except Fault Text :=
  match Json.ofValue (.map b.rules.entries) with
  | .error cause => .error (.json cause)
  | .ok rules =>
    let parts := (b.sections (rules.render (some indent.toNat))).filter fun (part : Text) =>
      part ≠ ""
    .ok (Text.intercalate "\n\n" parts ++ "\n")

/-- The indentation of the rules where nothing else is asked for. -/
def defaultIndent : Int := 2

/-- **The module of a configuration given as data.** -/
def compile {σ : Type} (loader : Loader σ) (config : Value) : Resolving σ Text := do
  MonadExcept.ofExcept ((← ofConfig loader config).moduleText defaultIndent)

end Bundle

end LintBundle
