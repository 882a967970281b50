import LintBundle.Value.Basic

/-!
# Severity — which rules are off

A rule's value is a severity, or a sequence of a severity and options.  A severity is off when it
is a number equal to zero or the word `off`; `normalize` writes an off severity as the number `0`
and keeps everything else as it is.
-/

namespace LintBundle.Severity

open Value

/-- The number that stands for an off severity. -/
def disabled : Value := .int 0

/-- The words and numbers that turn a rule off.  A truth value is no number here. -/
def isOff : Value → Bool
  | .int n => n = 0
  | .float x => x.isZero
  | .str s => s = "off"
  | _ => false

/-- The severity of a rule's value: the first item of a sequence, off for an empty one. -/
def ofValue (v : Value) : Value :=
  match v.sequence? with
  | some items => items.headD disabled
  | none => v

/-- Whether a rule's value turns the rule off. -/
def isDisabled (v : Value) : Bool := isOff (ofValue v)

/-- An off severity as the number `0`. -/
def canonical (v : Value) : Value := if isOff v then disabled else v

/-- **A rule's value with an off severity written as `0`**; a sequence becomes a list, and an empty
one is off. -/
def normalize (v : Value) : Value :=
  match v.sequence? with
  | some [] => disabled
  | some (head :: rest) => .list (canonical head :: rest)
  | none => canonical v

end LintBundle.Severity
