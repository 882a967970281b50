import LintBundle.Naming

/-!
# Plugin/Builtin — the manifest of the built-in rules

Every built-in rule is exported from the place a rule would be imported from anyway.  The config
`recommended` turns all of them on, `correctness` those that find broken diagrams, and `all`
raises the warnings of `recommended` to errors.
-/

namespace LintBundle.Builtin

/-- The built-in rules. -/
def rules : List Text :=
  [ "ad-hoc-sub-process", "conditional-flows", "end-event-required",
    "event-sub-process-typed-start-event", "fake-join", "global", "label-required", "link-event",
    "no-bpmndi", "no-complex-gateway", "no-disconnected", "no-duplicate-sequence-flows",
    "no-gateway-join-fork", "no-implicit-end", "no-implicit-split", "no-implicit-start",
    "no-inclusive-gateway", "no-overlapping-elements", "single-blank-start-event",
    "single-event-definition", "start-event-required", "sub-process-blank-start-event",
    "superfluous-gateway", "superfluous-termination" ]

/-- The rules that only warn in `recommended`. -/
def warnings : List Text :=
  [ "fake-join", "global", "no-overlapping-elements", "superfluous-gateway",
    "superfluous-termination" ]

/-- The rules of `correctness`. -/
def correctness : List Text :=
  [ "conditional-flows", "end-event-required", "event-sub-process-typed-start-event",
    "link-event", "no-bpmndi", "no-disconnected", "no-duplicate-sequence-flows",
    "single-event-definition", "start-event-required", "sub-process-blank-start-event" ]

/-- A mapping with text keys. -/
def record (entries : List (Text × Value)) : Value :=
  .map (entries.map fun (name, value) => (.str name, value))

/-- Rules that are all errors. -/
def errors (names : List Text) : Value := record (names.map fun name => (name, .str "error"))

/-- The config `recommended`. -/
def recommended : Value :=
  record [("rules", record (rules.map fun name =>
    (name, .str (if warnings.contains name then "warn" else "error"))))]

/-- **The manifest of the built-in package.** -/
def manifest : Value :=
  record
    [ ("rules", record (rules.map fun name => (name, .str ("rules/" ++ name)))),
      ("configs", record
        [ ("recommended", recommended),
          ("correctness", record [("rules", errors correctness)]),
          ("all", record
            [ ("extends", .str "bpmnlint:recommended"), ("rules", errors warnings) ]) ]) ]

/-- The number of configs in the manifest. -/
def configCount : Nat := 3

end LintBundle.Builtin
