import LintBundle.Fault

/-!
# Naming — rules, plugins and named configs as texts

A rule is addressed as `rule`, `plugin/rule` or `@scope/plugin/rule`, a named config as
`bpmnlint:config` or `plugin:ref/config`.  A plugin's package carries a prefix that may be left
out of its name, and the plugin called `local` is the package being compiled.
-/

namespace LintBundle

/-- The package whose rules need no plugin in front. -/
def builtinPackage : Text := "bpmnlint"

/-- What the package names of plugins begin with. -/
def packagePrefix : Text := "bpmnlint-plugin-"

/-- The plugin name that stands for the package being compiled. -/
def localPlugin : Text := "local"

/-- A plugin as a configuration addresses it. -/
structure PluginRef where
  name : Text
  scope : Option Text
  deriving DecidableEq, Repr

namespace PluginRef

/-- The plugin of the built-in rules. -/
def builtin : PluginRef := ⟨builtinPackage, none⟩

/-- Whether the built-in rules are meant. -/
def isBuiltin (p : PluginRef) : Bool := p.scope.isNone && p.name = builtinPackage

/-- Whether the package being compiled is meant. -/
def isLocal (p : PluginRef) : Bool := p.scope.isNone && p.name = localPlugin

/-- A name with the scope in front, unless that is empty or absent. -/
def inScope (scope : Option Text) (name : Text) : Text :=
  match scope with
  | none => name
  | some s => if s = "" then name else s ++ "/" ++ name

/-- The package a plugin comes in; of the local plugin, the package it would come in elsewhere. -/
def packageName (p : PluginRef) : Text :=
  if p.isBuiltin then builtinPackage else inScope p.scope (packagePrefix ++ p.name)

/-- The name that rules of the plugin have in front. -/
def shortName (p : PluginRef) : Text := inScope p.scope p.name

end PluginRef

/-- A rule by its plugin and its name there. -/
structure RuleName where
  plugin : PluginRef
  name : Text
  deriving DecidableEq, Repr

/-- A named config by its plugin and its name there. -/
structure ConfigRef where
  plugin : PluginRef
  config : Text
  deriving DecidableEq, Repr

namespace Naming

/-! ## Plugins -/

/-- The parts of a text between its slashes. -/
def segments (cs : List Point) : List (List Point) := Text.split (.char '/') cs

/-- Texts with slashes between them. -/
def joined (parts : List (List Point)) : List Point := Text.join (.char '/') parts

/-- A plugin name without the prefix of its package, of which something has to remain. -/
def withoutPrefix (name : List Point) : List Point :=
  let lead := packagePrefix.toList
  if lead.isPrefixOf name && lead.length < name.length then name.drop lead.length else name

/-- A plugin reference; in a scoped one the scope ends at the first slash. -/
def plugin (ref : List Point) : PluginRef :=
  if ref.head? = some (.char '@') then
    { name := Text.ofList (withoutPrefix ((ref.dropWhile (· ≠ .char '/')).drop 1))
      scope := some (Text.ofList (ref.takeWhile (· ≠ .char '/'))) }
  else { name := Text.ofList (withoutPrefix ref), scope := none }

/-! ## Rules -/

/-- The rule a text names.  No segment may be empty, and a scope needs a plugin and a rule after
it. -/
def rule? (id : List Point) : Option RuleName :=
  let isScoped := id.head? = some (.char '@')
  let parts := segments id
  let owner := parts.take (if isScoped then 2 else 1)
  let rest := parts.drop (if isScoped then 2 else 1)
  if rest.isEmpty then
    if isScoped || id.isEmpty then none else some ⟨.builtin, Text.ofList id⟩
  else if parts.any List.isEmpty then none
  else some ⟨plugin (joined owner), Text.ofList (joined rest)⟩

/-- **The rule a rule id names.** -/
def rule (id : Value) : Except Fault RuleName :=
  match id with
  | .str s => (rule? s.toList).elim (.error (.invalidRuleName id)) .ok
  | _ => .error (.ofRuleId id)

/-! ## Named configs -/

/-- The config a text names: `bpmnlint:config`, `plugin:name/config` or
`plugin:@scope/name/config`. -/
def config? (ref : List Point) : Option ConfigRef :=
  let builtinLead := builtinPackage.toList ++ [.char ':']
  let pluginLead := ("plugin:" : Text).toList
  if builtinLead.isPrefixOf ref then
    let config := ref.drop builtinLead.length
    if config.isEmpty || config.contains (.char '/') then none
    else some ⟨.builtin, Text.ofList config⟩
  else if pluginLead.isPrefixOf ref then
    match segments (ref.drop pluginLead.length) with
    | [name, config] =>
      if name.isEmpty || name.head? = some (.char '@') || config.isEmpty then none
      else some ⟨plugin name, Text.ofList config⟩
    | [scope, name, config] =>
      if scope.head? ≠ some (.char '@') || scope.length < 2 || name.isEmpty ||
          name.head? = some (.char '@')
        || config.isEmpty then none
      else some ⟨plugin (joined [scope, name]), Text.ofList config⟩
    | _ => none
  else none

/-- **The config a reference names.** -/
def config (reference : Value) : Except Fault ConfigRef :=
  match reference with
  | .str s => (config? s.toList).elim (.error (.invalidExtends reference)) .ok
  | _ => .error (.ofReference reference)

/-! ## Rules of a plugin's config, seen from outside -/

/-- A rule id with the plugin's name in front, unless it is there already. -/
def qualified (plugin : PluginRef) (id : Text) : Text :=
  let lead := plugin.shortName ++ "/"
  if plugin.isBuiltin || lead.toList.isPrefixOf id.toList then id else lead ++ id

/-- **The id by which a rule of a plugin's config is addressed from outside.** -/
def qualify (plugin : PluginRef) (id : Value) : Except Fault Text :=
  match id with
  | .str s => .ok (qualified plugin s)
  | _ => .error (.ofRuleId id)

end Naming

end LintBundle
