import LintBundle.Text.Basic

/-!
# Command/Arguments — what a command line asks for

The first argument names the command, after two hyphens that may stand before it.  Options may stand
anywhere after it, with their values as the next argument or after an equals sign; of a repeated
option the last value counts, and an empty value is none.  After two hyphens every argument is a
value.
-/

namespace LintBundle

/-- What a command does. -/
inductive Verb
  | compile
  | rules
  deriving DecidableEq, Repr

/-- A command with the path of a configuration. -/
structure Command where
  verb : Verb
  config : Text
  /-- The project directory, if one is given. -/
  root : Option Text
  /-- The file to write, if one is given. -/
  output : Option Text
  deriving DecidableEq, Repr

namespace Command

/-- An option with a value. -/
inductive Setting
  | root
  | output
  deriving DecidableEq, Repr

/-- The spellings of options: a long and a short one. -/
def spellings : List (Setting × Text × Point) :=
  [(.root, "--root", 'r'), (.output, "--output", 'o')]

/-- The option an argument begins, and the value in the same argument if there is one. -/
def setting? (argument : List Point) : Option (Setting × Option (List Point)) :=
  spellings.findSome? fun (setting, long, short) =>
    if argument = long.toList || argument = [Point.char '-', short] then some (setting, none)
    else if (long.toList ++ [Point.char '=']).isPrefixOf argument then
      some (setting, some (argument.drop (long.length + 1)))
    else if [Point.char '-', short].isPrefixOf argument then some (setting, some (argument.drop 2))
    else none

/-- Gives an option a value. -/
def assign (c : Command) (setting : Setting) (value : List Point) : Option Command :=
  let value := if value.isEmpty then none else some (Text.ofList value)
  match setting, c.verb with
  | .root, _ => some { c with root := value }
  | .output, .compile => some { c with output := value }
  | .output, .rules => none

/-- Options and values in order, given what was found so far and whether options are over. -/
def fold (c : Command) (configs : List Text) (areOver : Bool) :
    List Text → Option (Command × List Text)
  | [] => some (c, configs)
  | argument :: rest =>
    if areOver || argument = "-" || argument.toList.head? ≠ some (.char '-') then
      fold c (configs ++ [argument]) areOver rest
    else if argument = "--" then fold c configs true rest
    else
      match setting? argument.toList, rest with
      | some (setting, some value), rest => do fold (← c.assign setting value) configs false rest
      | some (setting, none), value :: rest => do
        fold (← c.assign setting value.toList) configs false rest
      | _, _ => none

/-- The command with a name. -/
def verb? (name : Text) : Option Verb :=
  if name = "compile" then some .compile else if name = "rules" then some .rules else none

/-- **The command that arguments ask for**; nothing if they ask for none. -/
def ofArguments? (arguments : List Text) : Option Command := do
  match if arguments.head? = some ("--" : Text) then arguments.tail else arguments with
  | [] => none
  | name :: rest =>
    let (c, configs) ← fold ⟨← verb? name, "", none, none⟩ [] false rest
    match configs with
    | [config] => some { c with config := config }
    | _ => none

end Command

end LintBundle
