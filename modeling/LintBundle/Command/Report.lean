import LintBundle.Bundle
import LintBundle.Console.Markup
import LintBundle.Console.Table
import LintBundle.Json.Printer

/-!
# Command/Report — the table of effective rules

A row for each rule, with its normalized value, and, where the rule is on, the identifier and the
path it is imported under.  Values stand in the colour of their severity; the text that is left
when colours are taken away is what a console without them shows.
-/

namespace LintBundle

/-- The colour of a severity: that of warnings, of errors, of rules that are off, or of none of
these. -/
def Severity.color (value : Value) : String :=
  match Severity.ofValue value with
  | .str s => if s = "warn" then "yellow" else if s = "error" then "red" else "blue"
  | .int n => ofNumber (fun k => n = k)
  | .float x => ofNumber x.equalsInt
  | _ => "white"
where
  ofNumber (equals : Int → Bool) : String :=
    if equals 0 then "dim" else if equals 1 then "yellow" else if equals 2 then "red" else "blue"

namespace Bundle

/-- The import a rule is served by. -/
def importOf? (b : Bundle) (id : Value) : Option ImportRecord := do
  let (_, canonicalId) ← b.targets.find? fun (key, _) => key.same id
  b.imports.find? fun record => record.canonicalId = canonicalId

/-- A rule's value on one line, in its colour. -/
def valueMarkup (value : Value) : Except Fault (List Point) :=
  match Json.ofValue value with
  | .error cause => .error (.json cause)
  | .ok j =>
    let color : Text := Severity.color value
    .ok ("[" ++ color ++ "]" ++ j.render none ++ "[/" ++ color ++ "]" : Text).toList

/-- A row of the report, in console text. -/
structure ReportRow where
  rule : List Point
  severity : List Point
  importedAs : List Point
  source : List Point

/-- The row of a rule. -/
def reportRow (b : Bundle) (id value : Value) : Except Fault ReportRow := do
  if id.hasLongNumber then throw .numberTooLong
  let record := b.importOf? id
  return ⟨id.display.toList, ← valueMarkup value, record.elim [] fun r => r.identifier.toList,
    record.elim [] fun r => r.path.toList⟩

/-- A column of the report. -/
def reportColumn (rows : List ReportRow) (heading : String) (least : Nat) (breaks : Bool)
    (cell : ReportRow → List Point) : Except Fault Column := do
  return ⟨(heading : Text).toList, least, breaks, ← rows.mapM fun row => Markup.text (cell row)⟩

/-- **The lines of the report** about a configuration that is called by its path. -/
def report (b : Bundle) (path : Text) : Except Fault (List (List Point)) := do
  if b.rules.entries.isEmpty then
    let shown ← Markup.text ("[green]OK[/green] " ++ path ++ ": no rules configured" : Text).toList
    return Layout.lines .never Layout.consoleWidth shown
  else
    let rows ← b.rules.entries.mapM fun (id, value) => b.reportRow id value
    let columns :=
      [ ← reportColumn rows "Rule" 0 false ReportRow.rule,
        ← reportColumn rows "Severity" 10 true ReportRow.severity,
        ← reportColumn rows "Imported as" 0 true ReportRow.importedAs,
        ← reportColumn rows "From" 0 true ReportRow.source ]
    let title ← Markup.text ("Rules: " ++ path : Text).toList
    return Table.lines ⟨title, columns⟩ Layout.consoleWidth
      ++ [[], ("Summary: " ++ b.summary : Text).toList]

end Bundle

end LintBundle
