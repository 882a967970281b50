import LintBundle.Command.Arguments
import LintBundle.Command.Report
import LintBundle.Loader.Directory
import LintBundle.Module.Text

/-!
# Command/Run — what a command prints and writes

A command reads the configuration, bundles it with the plugins of its project directory, and prints
the module or the report, or writes the module to a file.  A reported fault is one line on the
error output; any other fault escapes.

What is printed and written is UTF-8, which has no encoding for a half of a surrogate pair.  The
error output shows the escape of a half; on the output and in a file it is a fault.  An output with
a half is not begun, but a file is made, or emptied, before its text is encoded.  The line that
names the file comes last, so it can fail with the module in its place. -/

namespace LintBundle

/-- What a command leaves behind. -/
structure Outcome where
  exitCode : Nat
  stdout : String
  stderr : String
  /-- The fault that ended the command without a report. -/
  escaped : Option Fault
  files : Files

/-- Lines of text. -/
def linesText (lines : List (List Point)) : Text :=
  .ofList (lines.flatMap fun line => line ++ [.char '\n'])

/-- A text as the error output shows it. -/
def errorText (t : Text) : String :=
  String.ofList <| t.toList.flatMap fun
    | .char c => [c]
    | .half i => Display.halfEscape i

namespace Outcome

/-- Success, with text on the output, if it can be written there. -/
def success (files : Files) (text : Text) : Outcome :=
  match text.written? with
  | some output => ⟨0, output, "", none, files⟩
  | none => ⟨1, "", "", some .notWritable, files⟩

/-- A fault, reported after a heading if it is one to report. -/
def failure (files : Files) (heading : String) (fault : Fault) : Outcome :=
  if fault.isReported then
    let message := Text.ofList (Markup.escape fault.message.toList)
    match Markup.text ("[red]" ++ heading ++ ":[/red] " ++ message : Text).toList with
    | .ok shown =>
      let lines := Layout.lines .never Layout.consoleWidth shown
      ⟨1, "", errorText (linesText lines), none, files⟩
    | .error fault => ⟨1, "", "", some fault, files⟩
  else ⟨1, "", "", some fault, files⟩

end Outcome

namespace Command

/-- The project directory: the one given, or else that of the configuration. -/
def projectRoot (c : Command) (files : Files) : Path :=
  match c.root with
  | some root => .ofText root
  | none => (files.resolve (.ofText c.config)).parent

/-- The built-in package in front of the project directory. -/
def loader (c : Command) (files : Files) : Loader Files :=
  .builtin (some (.directory (c.projectRoot files)))

/-- The bundle of a configuration. -/
def bundle (c : Command) (files : Files) (document : Document) : Except Fault Bundle :=
  (Bundle.ofDocument (c.loader files) document (.start files)).1

/-- The line that names the file a module is written to, and the summary. -/
def writtenLines (path : Path) (b : Bundle) : Except Fault Text := do
  let shown ← Markup.text ("[green]Written:[/green] " ++ path.text : Text).toList
  let lines := (Layout.lines .insideWords Layout.consoleWidth shown).map
    (Layout.cut Layout.consoleWidth)
  return linesText (lines ++ [b.summary.toList])

/-- Writes a module to a file, in directories that are made where they are missing. -/
def writeModule (files : Files) (path : Path) (b : Bundle) (code : Text) : Outcome :=
  match files.makeDirectories path.parent with
  | (files, some cause) => .failure files "" (.access cause)
  | (files, none) =>
    -- a file whose text has no encoding is left without any
    match files.write path (code.written?.getD "").toUTF8 with
    | .error cause => .failure files "" (.access cause)
    | .ok files =>
      if code.written?.isNone then .failure files "" .notWritable
      else
        match writtenLines path b with
        | .error fault => .failure files "" fault
        | .ok text => .success files text

/-- Prints or writes the module of a bundle. -/
def emitModule (c : Command) (files : Files) (b : Bundle) : Outcome :=
  match b.moduleText Bundle.defaultIndent with
  | .error fault => .failure files "" fault
  | .ok code =>
    match c.output with
    | none => .success files code
    | some output => writeModule files (.ofText output) b code

/-- Prints the report about a bundle. -/
def emitReport (c : Command) (files : Files) (b : Bundle) : Outcome :=
  match b.report c.config with
  | .error fault => .failure files "" fault
  | .ok lines => .success files (linesText lines)

/-- The heading of faults that come up after the configuration is read. -/
def heading : Verb → String
  | .compile => "Compilation error"
  | .rules => "Error"

/-- **The outcome of a command.** -/
def run (c : Command) (files : Files) : Outcome :=
  match files.readConfig (.ofText c.config) with
  | .error fault => .failure files "Error" fault
  | .ok document =>
    match c.bundle files document with
    | .error fault => .failure files (heading c.verb) fault
    | .ok b =>
      match c.verb with
      | .compile => c.emitModule files b
      | .rules => c.emitReport files b

end Command

end LintBundle
