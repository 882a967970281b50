import LintBundle.Command.Run
import LintBundle.Proofs.Chaining
import LintBundle.Proofs.Confining
import LintBundle.Proofs.Delivering
import LintBundle.Proofs.Escaping
import LintBundle.Proofs.Identity
import LintBundle.Proofs.ModuleText
import LintBundle.Proofs.Reordering

/-!
# Proofs/Tabulating — the report shows what the module holds

    configuration ──bundle──▸ imports, cache, rules ──▸ module
                                      └───────────────▸ rows ──▸ cells that show them

A row is found by looking an id up in the targets and its canonical id in the imports.  That finds
the import that serves the rule where the rule is on, and nothing where it is off, since targets
have different ids and imports different canonical ids.  So the rows of a report are the rules of
the module that is compiled from the same configuration, each with its import (`ShowsRule`,
`report_shows_module`), as far as the console shows texts as they are: it takes them for markup, and
a name or path with brackets in it may lose a part (`brackets_not_shown`). -/

namespace LintBundle

/-! ## Reported faults -/

/-- **A command that ends in a reported fault**: it prints a line about it, and nothing escapes. -/
structure Outcome.IsReported (out : Outcome) : Prop where
  exitCode : out.exitCode = 1
  escaped : out.escaped = none

namespace Outcome

variable {files : Files} {heading : String} {fault : Fault}

/-- **A fault is reported if it is one to report**: the line about it always shows. -/
theorem isReported_failure (h : '[' ∉ heading.toList) :
    (failure files heading fault).IsReported ↔ fault.isReported = true := by
  rw [failure]
  split
  · rename_i hreported
    have hheading : Point.char '[' ∉ (heading : Text).toList := by
      rw [Text.toList_ofString, List.mem_map_of_injective fun _ _ => Point.char.inj]
      exact h
    have hcolored : ("[red]" ++ heading ++ ":[/red] "
        ++ Text.ofList (Markup.escape fault.message.toList) : Text).toList
          = Markup.colored "red" ((heading : Text).toList ++ [.char ':'])
            ++ ([.char ' '] ++ Markup.escape fault.message.toList) := by
      simp [Markup.colored]
    have htags : ∀ part ∈ (Text.split (.char '[') ((heading : Text).toList ++ [.char ':'])).tail,
        Markup.tag? part = none := by
      rw [Text.split_of_notMem (by simpa using hheading)]
      simp
    have hblank : Point.char '[' ∉ [Point.char ' '] := by decide
    obtain ⟨shown, hshown⟩ := Markup.exists_text_escape hblank (by decide) fault.message.toList
    have hline := Markup.text_colored_append (by decide : ("red" : Text) ∈ Markup.colors) htags
      (Markup.slashes_eq_zero (by simp)) ([.char ' '] ++ Markup.escape fault.message.toList)
    rw [hshown] at hline
    dsimp only
    rw [hcolored, hline]
    exact iff_of_true ⟨rfl, rfl⟩ hreported
  · rename_i hreported
    exact iff_of_false (fun h => by cases h.escaped) hreported

/-- Success is no report, and a text that cannot be written is a fault that escapes. -/
theorem not_isReported_success (files : Files) (text : Text) :
    ¬ (success files text).IsReported := by
  rw [success]
  split
  · exact fun h => by cases h.exitCode
  · exact fun h => by cases h.escaped

theorem not_isReported_failure (h : fault.escapes = true) :
    ¬ (failure files heading fault).IsReported := by
  have hreported : fault.isReported = false := by simpa [Fault.escapes] using h
  rw [failure, if_neg (by simp [hreported])]
  exact fun h => by cases h.escaped

end Outcome

/-! ## Rows of a report -/

theorem Ends.mapM {α β : Type} {allowed : Fault → Bool} {f : α → Except Fault β}
    (h : ∀ a, Ends allowed (f a)) {l : List α} : Ends allowed (l.mapM f) := by
  induction l with
  | nil => trivial
  | cons a l ih =>
    rw [List.mapM_cons]
    exact (h a).bind fun b => ih.bind fun bs => trivial

namespace Bundle

theorem color_mem (value : Value) : (Severity.color value : Text) ∈ Markup.colors := by
  have ofNumber : ∀ equals, (Severity.color.ofNumber equals : Text) ∈ Markup.colors := by
    intro equals
    rw [Severity.color.ofNumber]
    split
    · decide
    · split
      · decide
      · split <;> decide
  rw [Severity.color]
  split
  · split
    · decide
    · split <;> decide
  · exact ofNumber _
  · exact ofNumber _
  · decide

/-- **What a row consists of.** -/
theorem reportRow_eq_ok {b : Bundle} {id value : Value} {row : ReportRow}
    (h : b.reportRow id value = .ok row) :
    row.rule = id.display.toList ∧
      (∃ j, Json.ofValue value = .ok j ∧
        row.severity = Markup.colored (Severity.color value) (j.render none : Text).toList) ∧
      row.importedAs = (b.importOf? id).elim [] (fun record => record.identifier.toList) ∧
      row.source = (b.importOf? id).elim [] fun record => record.path.toList := by
  rw [reportRow] at h
  split at h
  · cases h
  · obtain ⟨cell, hcell, h⟩ := bind_eq_ok_iff.1 h
    obtain rfl := Except.ok.inj h
    refine ⟨rfl, ?_, rfl, rfl⟩
    rw [valueMarkup] at hcell
    cases hj : Json.ofValue value with
    | error cause =>
      rw [hj] at hcell
      cases hcell
    | ok j =>
      rw [hj] at hcell
      refine ⟨j, rfl, ?_⟩
      rw [← Except.ok.inj hcell]
      simp [Markup.colored]

/-- The table of a report, given what shows in its cells. -/
def reportTable (title : List Point) (rows : List ReportRow) : Table where
  title := title
  columns :=
    [⟨("Rule" : Text).toList, 0, false, rows.map ReportRow.rule⟩,
      ⟨("Severity" : Text).toList, 10, true, rows.map ReportRow.severity⟩,
      ⟨("Imported as" : Text).toList, 0, true, rows.map ReportRow.importedAs⟩,
      ⟨("From" : Text).toList, 0, true, rows.map ReportRow.source⟩]

/-- What shows of a row. -/
structure ShowsRow (row cells : ReportRow) : Prop where
  rule : Markup.text row.rule = .ok cells.rule
  severity : Markup.text row.severity = .ok cells.severity
  importedAs : Markup.text row.importedAs = .ok cells.importedAs
  source : Markup.text row.source = .ok cells.source

/-- Columns that show are those of rows that show. -/
theorem exists_rows {rows : List ReportRow} {rule severity importedAs source : List (List Point)}
    (hrule : rows.mapM (fun row => Markup.text row.rule) = .ok rule)
    (hseverity : rows.mapM (fun row => Markup.text row.severity) = .ok severity)
    (himportedAs : rows.mapM (fun row => Markup.text row.importedAs) = .ok importedAs)
    (hsource : rows.mapM (fun row => Markup.text row.source) = .ok source) :
    ∃ cells, List.Forall₂ ShowsRow rows cells ∧ rule = cells.map ReportRow.rule ∧
      severity = cells.map ReportRow.severity ∧ importedAs = cells.map ReportRow.importedAs ∧
      source = cells.map ReportRow.source := by
  induction rows generalizing rule severity importedAs source with
  | nil =>
    cases hrule
    cases hseverity
    cases himportedAs
    cases hsource
    exact ⟨[], .nil, rfl, rfl, rfl, rfl⟩
  | cons row rows ih =>
    obtain ⟨cell₁, more₁, h₁, hmore₁, rfl⟩ := mapM_cons_eq_ok hrule
    obtain ⟨cell₂, more₂, h₂, hmore₂, rfl⟩ := mapM_cons_eq_ok hseverity
    obtain ⟨cell₃, more₃, h₃, hmore₃, rfl⟩ := mapM_cons_eq_ok himportedAs
    obtain ⟨cell₄, more₄, h₄, hmore₄, rfl⟩ := mapM_cons_eq_ok hsource
    obtain ⟨cells, hcells, rfl, rfl, rfl, rfl⟩ := ih hmore₁ hmore₂ hmore₃ hmore₄
    exact ⟨⟨cell₁, cell₂, cell₃, cell₄⟩ :: cells, .cons ⟨h₁, h₂, h₃, h₄⟩ hcells, rfl, rfl, rfl, rfl⟩

theorem reportColumn_eq_ok {rows : List ReportRow} {heading : String} {least : ℕ} {breaks : Bool}
    {cell : ReportRow → List Point} {column : Column}
    (h : reportColumn rows heading least breaks cell = .ok column) :
    ∃ cells, rows.mapM (fun row => Markup.text (cell row)) = .ok cells ∧
      column = ⟨(heading : Text).toList, least, breaks, cells⟩ := by
  obtain ⟨cells, hcells, h⟩ := bind_eq_ok_iff.1 h
  exact ⟨cells, hcells, (Except.ok.inj h).symm⟩

/-- **What a report about rules consists of**: a table with a row for each rule, and the summary. -/
theorem report_eq_ok {b : Bundle} {path : Text} {lines : List (List Point)}
    (hne : b.rules.entries ≠ []) (h : b.report path = .ok lines) :
    ∃ rows title cells, b.rules.entries.mapM (fun (id, value) => b.reportRow id value) = .ok rows ∧
      List.Forall₂ ShowsRow rows cells ∧
      lines = (reportTable title cells).lines Layout.consoleWidth
        ++ [[], ("Summary: " : Text).toList ++ b.summary.toList] := by
  rw [report, if_neg (by simpa using hne)] at h
  obtain ⟨rows, hrows, h⟩ := bind_eq_ok_iff.1 h
  obtain ⟨_, h₁, h⟩ := bind_eq_ok_iff.1 h
  obtain ⟨_, h₂, h⟩ := bind_eq_ok_iff.1 h
  obtain ⟨_, h₃, h⟩ := bind_eq_ok_iff.1 h
  obtain ⟨_, h₄, h⟩ := bind_eq_ok_iff.1 h
  obtain ⟨title, -, h⟩ := bind_eq_ok_iff.1 h
  obtain ⟨rule, hrule, rfl⟩ := reportColumn_eq_ok h₁
  obtain ⟨severity, hseverity, rfl⟩ := reportColumn_eq_ok h₂
  obtain ⟨importedAs, himportedAs, rfl⟩ := reportColumn_eq_ok h₃
  obtain ⟨source, hsource, rfl⟩ := reportColumn_eq_ok h₄
  obtain ⟨cells, hcells, rfl, rfl, rfl, rfl⟩ := exists_rows hrule hseverity himportedAs hsource
  exact ⟨rows, title, cells, hrows, hcells, (Except.ok.inj h).symm⟩

/-- **What a report can fail with is not reported.** -/
theorem ends_report (b : Bundle) (path : Text) : Ends Fault.escapes (b.report path) := by
  have hrow : ∀ id value, Ends Fault.escapes (b.reportRow id value) := by
    intro id value
    rw [reportRow]
    split
    · rfl
    · refine Ends.bind ?_ fun _ => trivial
      rw [valueMarkup]
      split
      · rfl
      · trivial
  have hcolumn : ∀ rows heading least breaks cell,
      Ends Fault.escapes (reportColumn rows heading least breaks cell) := by
    intro rows heading least breaks cell
    exact (Ends.mapM fun row => Markup.ends_text (cell row)).bind fun _ => trivial
  rw [report]
  split
  · exact (Markup.ends_text _).bind fun _ => trivial
  · refine (Ends.mapM fun ⟨id, value⟩ => hrow id value).bind fun rows => ?_
    refine (hcolumn ..).bind fun _ => (hcolumn ..).bind fun _ => (hcolumn ..).bind fun _ => ?_
    exact (hcolumn ..).bind fun _ => (Markup.ends_text _).bind fun _ => trivial

end Bundle

namespace Command

/-- The bundle that a command is about. -/
def bundled (c : Command) (files : Files) : Except Fault Bundle := do
  c.bundle files (← files.readConfig (.ofText c.config))

theorem not_isReported_emitReport (c : Command) (files : Files) (b : Bundle) :
    ¬ (c.emitReport files b).IsReported := by
  have hends := b.ends_report c.config
  rw [emitReport]
  split
  · rename_i fault hfault
    rw [hfault] at hends
    exact Outcome.not_isReported_failure hends
  · exact Outcome.not_isReported_success _ _

theorem not_isReported_writeModule (files : Files) (path : Path) (b : Bundle) (code : Text) :
    ¬ (writeModule files path b code).IsReported := by
  rw [writeModule]
  split
  · exact Outcome.not_isReported_failure rfl
  · split
    · exact Outcome.not_isReported_failure rfl
    · split
      · exact Outcome.not_isReported_failure rfl
      · split
        · rename_i fault hfault
          have hends : Ends Fault.escapes (writtenLines path b) :=
            (Markup.ends_text _).bind fun _ => trivial
          rw [hfault] at hends
          exact Outcome.not_isReported_failure hends
        · exact Outcome.not_isReported_success _ _

theorem not_isReported_emitModule (c : Command) (files : Files) (b : Bundle) :
    ¬ (c.emitModule files b).IsReported := by
  rw [emitModule]
  split
  · rename_i fault hfault
    have hends : fault.escapes = true := by
      rw [Bundle.moduleText] at hfault
      split at hfault
      · rw [← Except.error.inj hfault]
        rfl
      · cases hfault
    exact Outcome.not_isReported_failure hends
  · split
    · exact Outcome.not_isReported_success _ _
    · exact not_isReported_writeModule _ _ _ _

/-- **A command ends in a reported fault if its bundle does.** -/
theorem isReported_run (c : Command) (files : Files) :
    (c.run files).IsReported ↔
      ∃ fault, c.bundled files = .error fault ∧ fault.isReported = true := by
  unfold run
  split
  · rename_i fault hread
    have hbundled : c.bundled files = .error fault := by
      rw [bundled, hread]
      rfl
    have herror : '[' ∉ "Error".toList := by decide
    rw [Outcome.isReported_failure herror, hbundled]
    simp
  · rename_i document hread
    have hbundled : c.bundled files = c.bundle files document := by
      rw [bundled, hread]
      rfl
    rw [hbundled]
    split
    · rename_i fault hbundle
      have hheading : '[' ∉ (heading c.verb).toList := by cases c.verb <;> decide
      rw [Outcome.isReported_failure hheading, hbundle]
      simp
    · rename_i b hbundle
      rw [hbundle]
      refine iff_of_false ?_ (by simp)
      cases c.verb with
      | compile => exact not_isReported_emitModule c files b
      | rules => exact not_isReported_emitReport c files b

/-! ## The imports of rules -/

theorem settled_loader (c : Command) (files : Files) : (c.loader files).Settled files := by
  refine Loader.settled_of_next (fun world requested specifier => ?_) files
  have hsame : ((c.loader files).load requested world).2 = world := by
    simp only [loader, Loader.builtin]
    split <;> rfl
  rw [hsame]

/-- **The bundle of a command is sound** for targets that are found from the start. -/
theorem sound_bundle {c : Command} {files : Files} {document : Document} {b : Bundle}
    (h : c.bundle files document = .ok b) :
    ∃ (rules : Ruleset) (found : List (Value × RuleTarget)), Bundle.Sound rules.entries found b ∧
      ∀ e ∈ found, ((Session.ruleTarget (c.loader files) e.1).runIn (.start files)).1 =
        .ok e.2 := by
  have consistent := Session.Consistent.start (settled_loader c files)
  have hrun : ((Bundle.ofDocument (c.loader files) document).runIn (.start files)).1 = .ok b := h
  obtain ⟨rules, session, heffective, hrules⟩ := Resolving.runIn_bind_eq_ok (Prod.ext hrun rfl)
  have keeps : Resolving.Keeps (Session.Consistent (c.loader files) ((c.loader files).answer files))
      (Extends.effectiveRules (c.loader files) document) :=
    Operation.keeps (fun plugin => (Session.computes_manifest plugin).keeps)
      (fun plugin => (Session.computes_packageName plugin).keeps) (.effectiveRules document)
  have consistent' := keeps _ consistent
  rw [heffective] at consistent'
  obtain ⟨found, hsound, hfound⟩ :=
    Bundle.sound_of_consistent consistent' (congrArg Prod.fst hrules)
  refine ⟨rules, found, hsound, fun e he => ?_⟩
  rw [(Session.computes_ruleTarget e.1).outcome consistent]
  exact hfound e he

end Command

namespace Naming

/-- The name of a package begins with a letter or like a scope. -/
theorem Legible.head?_packageName {p : PluginRef} (h : Legible p) :
    ∃ first ∈ [.char 'b', .char '@'], p.packageName.toList.head? = some first := by
  rw [PluginRef.packageName]
  split
  · exact ⟨.char 'b', by decide, by decide⟩
  · have hname : (packagePrefix ++ p.name).toList.head? = some (.char 'b') := by
      rw [Text.toList_append]
      rfl
    cases hs : p.scope with
    | none => exact ⟨.char 'b', by decide, hname⟩
    | some scope =>
      have hhead := (h.scope scope hs).1
      have hne : scope ≠ "" := by
        rintro rfl
        cases hhead
      refine ⟨.char '@', by decide, ?_⟩
      rw [PluginRef.inScope, if_neg hne, Text.toList_append, Text.toList_append,
        List.append_assoc, List.head?_append, hhead]
      rfl

end Naming

namespace Bundle

variable {σ : Type} {loader : Loader σ} {rules : Ruleset} {found : List (Value × RuleTarget)}
  {b : Bundle}

/-- The first characters of import paths, none of which means anything to a console. -/
def pathHeads : List Point := [.char '.', .char 'b', .char '@']

theorem ordinary_of_mem {first : Point} (h : first ∈ pathHeads) :
    Markup.Ordinary first ∧ first.isSpace = false := by
  have hmark : ∀ {c : Point}, c ∉ pathHeads → first ≠ c := fun hc heq => hc (heq ▸ h)
  have hshown : Markup.isHidden first = false ∧ first.isSpace = false := by
    simp only [pathHeads, List.mem_cons, List.not_mem_nil, or_false] at h
    rcases h with rfl | rfl | rfl <;> exact ⟨rfl, rfl⟩
  exact ⟨⟨hmark (by decide), hmark (by decide), hmark (by decide), hshown.1⟩, hshown.2⟩

/-- **Import paths are not empty**: they begin with a package or a dot. -/
theorem exists_head_importPath {id : Value} {target : RuleTarget} {session session' : Session σ}
    (h : (Session.ruleTarget loader id).runIn session = (.ok target, session')) :
    ∃ first ∈ pathHeads, ∃ rest, target.importPath.toList = first :: rest := by
  obtain ⟨rule, package, _, path, hrule, hpackage, rfl⟩ := Session.ruleTarget_eq_ok h
  cases hl : rule.plugin.isLocal with
  | true => exact ⟨.char '.', by decide, .char '/' :: path.toList, by simp⟩
  | false =>
    rw [Session.packageName_of_not_isLocal hl] at hpackage
    obtain rfl := Except.ok.inj (congrArg Prod.fst hpackage)
    have hlegible := (Naming.Addressed.rule hrule).legible
    obtain ⟨first, hfirst, hhead⟩ := hlegible.head?_packageName
    obtain ⟨rest, hrest⟩ := List.head?_eq_some_iff.1 hhead
    refine ⟨first, List.mem_cons_of_mem _ hfirst, rest ++ .char '/' :: path.toList, ?_⟩
    simp [hrest]

/-- The paths in a sound bundle are not empty. -/
theorem Sound.exists_head_path (h : Sound rules.entries found b) {session : Session σ}
    (hfound : ∀ e ∈ found, ((Session.ruleTarget loader e.1).runIn session).1 = .ok e.2)
    {record : ImportRecord} (hrecord : record ∈ b.imports) :
    ∃ first ∈ pathHeads, ∃ rest, record.path.toList = first :: rest := by
  obtain ⟨e, he, hpath⟩ := Option.map_eq_some_iff.1 (h.paths record hrecord)
  rw [← hpath]
  exact exists_head_importPath (Prod.ext (hfound e (List.mem_of_find?_eq_some he)) rfl)

/-- **A rule that is off has no import**, whatever other rules have. -/
theorem Sound.importOf?_off (h : Sound rules.entries found b) {e : Value × Value}
    (he : e ∈ rules.entries) (hoff : Severity.isDisabled e.2 = true) : b.importOf? e.1 = none := by
  have hdiffer : ∀ target ∈ b.targets, ¬ target.1.same e.1 = true := by
    intro target htarget
    simp [h.no_target he hoff target htarget]
  rw [Bundle.importOf?, List.find?_eq_none.2 hdiffer]
  rfl

/-- **A rule that is on has an import**, and its canonical id stands in the cache with the
identifier of that import. -/
theorem Sound.importOf?_on (h : Sound rules.entries found b) {name : Text} {value : Value}
    (he : (.str name, value) ∈ rules.entries) (hon : Severity.isDisabled value = false) :
    ∃ target record n, (.str name, target) ∈ found ∧ record ∈ b.imports ∧
      b.importOf? (.str name) = some record ∧ record.identifier = identifier n ∧
      (target.canonicalId, record.identifier) ∈ b.cache := by
  obtain ⟨target, htarget⟩ := h.exists_target.2 ⟨value, he, hon⟩
  obtain ⟨record, hrecord, hcanonical, hserves⟩ := h.importOf? htarget
  obtain ⟨n, hn⟩ := h.exists_identifier hrecord
  refine ⟨target, record, n, htarget, hrecord, hserves, hn, ?_⟩
  rw [h.cached, ← hcanonical]
  exact List.mem_map_of_mem hrecord

theorem inert_identifier (n : ℕ) : Markup.Inert (identifier n).toList := by
  have hno : ∀ {c : Char}, c ∉ "rule_".toList → c.isDigit = false →
      .char c ∉ (identifier n).toList :=
    fun hletter hdigit => not_mem_identifier hletter hdigit n
  refine Markup.inert_of_notMem (hno (by decide) (by decide)) (hno (by decide) (by decide)) ?_
  intro c hc
  by_contra hhidden
  have hhidden : Markup.isHidden c = true := by simpa using hhidden
  simp only [Markup.isHidden, Bool.or_eq_true, decide_eq_true_eq, or_assoc] at hhidden
  rcases hhidden with rfl | rfl | rfl | rfl | rfl <;>
    exact hno (by decide) (by decide) hc

/-! ## Cells that show a rule -/

/-- A cell that shows a text: the text itself, unless that is markup. -/
structure Displays (text cell : List Point) : Prop where
  shown : Markup.text text = .ok cell
  exact : Markup.Inert text → cell = text

theorem displays_of_text {text cell : List Point} (h : Markup.text text = .ok cell) :
    Displays text cell :=
  ⟨h, fun hinert => Except.ok.inj (h.symm.trans hinert.text_eq)⟩

/-- A cell with nothing but blanks in it. -/
def IsBlank (cell : List Point) : Prop := ∀ c ∈ cell, c.isSpace = true

/-- A value in its colour shows as it is written, unless that is markup. -/
theorem cell_value {value : Value} {j : Json} {cell : List Point}
    (h : Markup.text (Markup.colored (Severity.color value) (j.render none : Text).toList) =
      .ok cell)
    (hinert : Markup.Inert (j.render none : Text).toList) :
    cell = (j.render none : Text).toList := by
  have hend : Markup.slashes (j.render none : Text).toList = 0 := by
    rw [Json.render, Text.toList_ofString, String.toList_ofList]
    refine Markup.slashes_eq_zero fun hlast => ?_
    rw [List.getLast?_map] at hlast
    obtain ⟨c, hc, heq⟩ := Option.map_eq_some_iff.1 hlast
    cases heq
    exact Json.getLast?_print none 0 j hc
  exact Except.ok.inj (h.symm.trans (hinert.text_colored (color_mem _) hend))

/-- An identifier always shows as it is. -/
theorem cell_identifier {n : ℕ} {cell : List Point}
    (h : Markup.text (identifier n).toList = .ok cell) :
    cell = (identifier n).toList ∧ ¬ IsBlank cell := by
  obtain rfl := Except.ok.inj ((inert_identifier n).text_eq.symm.trans h)
  refine ⟨rfl, fun hblank => ?_⟩
  rw [toList_identifier] at hblank
  exact absurd (hblank (.char 'r') (List.mem_cons_self ..)) (by decide)

/-- Of a path at least the first character shows. -/
theorem cell_path {first : Point} {rest cell : List Point} (hfirst : first ∈ pathHeads)
    (h : Markup.text (first :: rest) = .ok cell) : ¬ IsBlank cell := by
  obtain ⟨hordinary, hspace⟩ := ordinary_of_mem hfirst
  intro hblank
  rw [hblank first (List.mem_of_head? (hordinary.head?_text h))] at hspace
  cases hspace

/-- **Cells that show a rule of a module**, given where rules are found: its name; its value, in a
colour that does not show; and, exactly if it is on, the identifier that the cache has for its
canonical id, and the path that the module imports that identifier from. -/
structure ShowsRule (module : Statements) (target : Value → Except Fault RuleTarget)
    (e : Value × Value) (cells : ReportRow) : Prop where
  rule : ∃ name, e.1 = .str name ∧ Displays name.toList cells.rule
  severity : ∃ j, Json.ofValue e.2 = .ok j ∧
    Markup.text (Markup.colored (Severity.color e.2) (j.render none : Text).toList) =
      .ok cells.severity ∧
    (Markup.Inert (j.render none : Text).toList → cells.severity = (j.render none : Text).toList)
  off : Severity.isDisabled e.2 = true → cells.importedAs = [] ∧ cells.source = []
  on : Severity.isDisabled e.2 = false → ∃ found identifier path, target e.1 = .ok found ∧
    (found.canonicalId, identifier) ∈ module.cache ∧ (identifier, path) ∈ module.imports ∧
    cells.importedAs = identifier.toList ∧ ¬ IsBlank cells.importedAs ∧
    Displays path.toList cells.source ∧ ¬ IsBlank cells.source

/-- Whether the cells about an import are empty. -/
theorem ShowsRule.isEmpty {module : Statements} {target : Value → Except Fault RuleTarget}
    {e : Value × Value} {cells : ReportRow} (h : ShowsRule module target e cells) :
    (cells.importedAs.isEmpty, cells.source.isEmpty)
      = (Severity.isDisabled e.2, Severity.isDisabled e.2) := by
  cases hoff : Severity.isDisabled e.2 with
  | true =>
    obtain ⟨h₁, h₂⟩ := h.off hoff
    rw [h₁, h₂]
    rfl
  | false =>
    obtain ⟨_, _, _, -, -, -, -, h₁, -, h₂⟩ := h.on hoff
    have nonempty : ∀ {cell : List Point}, ¬ IsBlank cell → cell.isEmpty = false := by
      intro cell hcell
      rw [List.isEmpty_eq_false_iff]
      rintro rfl
      exact hcell (List.forall_mem_nil _)
    rw [nonempty h₁, nonempty h₂]

theorem map_isEmpty {module : Statements} {target : Value → Except Fault RuleTarget}
    {entries : List (Value × Value)} {rows : List ReportRow}
    (h : List.Forall₂ (ShowsRule module target) entries rows) :
    rows.map (fun row => (row.importedAs.isEmpty, row.source.isEmpty))
      = (entries.map fun e => Severity.isDisabled e.2).map fun isOff => (isOff, isOff) := by
  induction h with
  | nil => rfl
  | cons hrow _ ih => simp only [List.map_cons, hrow.isEmpty, ih]

/-- **A row that shows is that of its rule.** -/
theorem Sound.showsRule (h : Sound rules.entries found b) {session : Session σ}
    (hfound : ∀ e ∈ found, ((Session.ruleTarget loader e.1).runIn session).1 = .ok e.2)
    {module : Statements} (himports : module.imports =
      b.imports.map fun record => (record.identifier, record.path))
    (hcache : module.cache = b.cache) {e : Value × Value} (he : e ∈ b.rules.entries)
    (hid : ∃ id, e.1 = .str id) {row cells : ReportRow} (hrow : b.reportRow e.1 e.2 = .ok row)
    (hcells : ShowsRow row cells) :
    ShowsRule module (fun id => ((Session.ruleTarget loader id).runIn session).1) e cells := by
  obtain ⟨id, value⟩ := e
  obtain ⟨name, rfl⟩ : ∃ name, id = .str name := hid
  obtain ⟨hrule, ⟨j, hj, hseverity⟩, himportedAs, hsource⟩ := reportRow_eq_ok hrow
  obtain ⟨hcell, hvalue, hidentifier, hpath⟩ := hcells
  rw [h.table] at he
  obtain ⟨⟨id', given⟩, hgiven, heq⟩ := List.mem_map.1 he
  obtain ⟨rfl, rfl⟩ := Prod.mk.inj heq
  rw [hrule] at hcell
  rw [hseverity] at hvalue
  rw [himportedAs] at hidentifier
  rw [hsource] at hpath
  refine ⟨⟨name, rfl, displays_of_text hcell⟩, ⟨j, hj, hvalue, cell_value hvalue⟩,
    fun hoff => ?_, fun hon => ?_⟩
  · have hnone := h.importOf?_off hgiven ((Severity.isDisabled_normalize given).symm.trans hoff)
    rw [hnone] at hidentifier hpath
    exact ⟨(Except.ok.inj hidentifier).symm, (Except.ok.inj hpath).symm⟩
  · obtain ⟨target, record, n, htarget, hrecord, hserves, hn, hcached⟩ :=
      h.importOf?_on hgiven ((Severity.isDisabled_normalize given).symm.trans hon)
    obtain ⟨first, hfirst, rest, hhead⟩ := h.exists_head_path hfound hrecord
    rw [hserves] at hidentifier hpath
    have hshown : Markup.text (identifier n).toList = .ok cells.importedAs := hn ▸ hidentifier
    have hsource : Markup.text (first :: rest) = .ok cells.source := hhead ▸ hpath
    obtain ⟨hexact, hblank⟩ := cell_identifier hshown
    refine ⟨target, record.identifier, record.path, hfound _ htarget, hcache ▸ hcached, ?_,
      hn ▸ hexact, hblank, displays_of_text hpath, cell_path hfirst hsource⟩
    rw [himports]
    exact List.mem_map_of_mem hrecord

/-- Rows that show are those of the rules gone through. -/
theorem forall₂_cells {entries : List (Value × Value)} {rows cells : List ReportRow}
    {shows : Value × Value → ReportRow → Prop}
    (hrows : entries.mapM (fun (id, value) => b.reportRow id value) = .ok rows)
    (hcells : List.Forall₂ ShowsRow rows cells)
    (h : ∀ e ∈ entries, ∀ row cells, b.reportRow e.1 e.2 = .ok row → ShowsRow row cells →
      shows e cells) : List.Forall₂ shows entries cells := by
  induction entries generalizing rows cells with
  | nil =>
    cases hrows
    cases hcells
    exact .nil
  | cons e entries ih =>
    obtain ⟨row, more, hrow, hmore, rfl⟩ := mapM_cons_eq_ok hrows
    obtain ⟨hfirst, hrest⟩ := List.forall_mem_cons.1 h
    cases hcells with
    | cons hcell hcells => exact .cons (hfirst _ _ hrow hcell) (ih hmore hcells hrest)

end Bundle

namespace Command

open LintBundle.Bundle (Statements decode Shows ShowsRule reportTable)

/-- A compilation of the same configuration in the same project directory. -/
def compiling (c : Command) (output : Option Text) : Command :=
  { c with verb := .compile, output := output }

/-- **A report that succeeds** is the report about the bundle. -/
theorem run_report {c : Command} {files : Files} (hverb : c.verb = .rules)
    (h : (c.run files).exitCode = 0) :
    ∃ document b lines, files.readConfig (.ofText c.config) = .ok document ∧
      c.bundle files document = .ok b ∧ b.report c.config = .ok lines ∧
      c.run files = .success files (linesText lines) := by
  have hfailure : ∀ heading fault, (Outcome.failure files heading fault).exitCode = 0 → False := by
    simp
  revert h
  unfold run
  split
  · exact fun h => (hfailure _ _ h).elim
  · rename_i document hread
    split
    · exact fun h => (hfailure _ _ h).elim
    · rename_i b hbundle
      rw [hverb]
      dsimp only
      rw [emitReport]
      split
      · exact fun h => (hfailure _ _ h).elim
      · rename_i lines hreport
        exact fun _ => ⟨document, b, lines, hread, hbundle, hreport, rfl⟩

/-- **A compilation prints the module of a bundle** that has one, if it has an encoding. -/
theorem run_compiling {c : Command} {files : Files} {document : Document} {b : Bundle}
    {code : Text} (hread : files.readConfig (.ofText c.config) = .ok document)
    (hbundle : c.bundle files document = .ok b)
    (hcode : b.moduleText Bundle.defaultIndent = .ok code) :
    (c.compiling none).run files = .success files code := by
  have hread' : files.readConfig (.ofText (c.compiling none).config) = .ok document := hread
  have hbundle' : (c.compiling none).bundle files document = .ok b := hbundle
  unfold run
  split
  · rename_i fault hfault
    rw [hread'] at hfault
    cases hfault
  · rename_i document' hdocument
    obtain rfl := Except.ok.inj (hread'.symm.trans hdocument)
    rw [hbundle']
    dsimp only [compiling]
    rw [emitModule, hcode]

/-- **The module of a bundle whose ids are texts** says what the bundle does. -/
theorem exists_module {c : Command} {files : Files} {document : Document} {b : Bundle}
    (hread : files.readConfig (.ofText c.config) = .ok document)
    (hbundle : c.bundle files document = .ok b)
    (hids : ∀ e ∈ b.rules.entries, ∃ id, e.1 = .str id) :
    ∃ code table, (c.compiling none).compiled files = .ok code ∧
      (c.compiling none).run files = .success files code ∧
      decode code = some (b.statements table) ∧ List.Forall₂ Shows b.rules.entries table := by
  obtain ⟨rules, found, hsound, -⟩ := sound_bundle hbundle
  obtain ⟨table, htable, hshows⟩ := Bundle.exists_table hids hsound.shown_table
  obtain ⟨code, hcode, hdecode⟩ := hsound.decoded htable Bundle.defaultIndent
  exact ⟨code, table, compiled_eq_ok hread hbundle hcode,
    run_compiling hread hbundle hcode, hdecode,
    hshows⟩

/-- **The report shows what the module holds.**  Where a report succeeds and there are rules, whose
ids are all texts, the compilation of the same configuration comes to a module with these rules and
prints it, if it has an encoding; the report is a table of rows that show them, one by one, each
with its import in that module or with none, and a summary.  And a report ends in a reported fault
exactly if the bundle does, and so does a compilation. -/
theorem report_shows_module {c : Command} (hverb : c.verb = .rules) (files : Files) :
    ((c.run files).exitCode = 0 → ∃ b, c.bundled files = .ok b ∧
      (b.rules.entries ≠ [] → (∀ e ∈ b.rules.entries, ∃ id, e.1 = .str id) →
        ∃ code module table title rows, (c.compiling none).compiled files = .ok code ∧
          (c.compiling none).run files = .success files code ∧ decode code = some module ∧
          module.imports = b.imports.map (fun record => (record.identifier, record.path)) ∧
          module.cache = b.cache ∧ List.Forall₂ Shows b.rules.entries table ∧
          module.rules = Json.pairedMembers table ∧
          c.run files = .success files (linesText (
            (reportTable title rows).lines Layout.consoleWidth
              ++ [[], ("Summary: " : Text).toList ++ b.summary.toList])) ∧
          List.Forall₂ (ShowsRule module fun id =>
            ((Session.ruleTarget (c.loader files) id).runIn (.start files)).1)
            b.rules.entries rows)) ∧
    ((c.run files).IsReported ↔
      ∃ fault, c.bundled files = .error fault ∧ fault.isReported = true) ∧
    ∀ output, ((c.compiling output).run files).IsReported ↔ (c.run files).IsReported := by
  refine ⟨fun hcode => ?_, isReported_run c files, fun output => ?_⟩
  · obtain ⟨document, b, lines, hread, hbundle, hreport, hrun⟩ := run_report hverb hcode
    have hbundled : c.bundled files = .ok b := by
      rw [bundled, hread]
      exact hbundle
    refine ⟨b, hbundled, fun hne hids => ?_⟩
    obtain ⟨rules, found, hsound, hfound⟩ := sound_bundle hbundle
    obtain ⟨code, table, hcompiled, hprinted, hdecode, hshows⟩ := exists_module hread hbundle hids
    obtain ⟨rows, title, cells, hrows, hcells, rfl⟩ := Bundle.report_eq_ok hne hreport
    refine ⟨code, _, table, title, cells, hcompiled, hprinted, hdecode, rfl, rfl, hshows, rfl, hrun,
      ?_⟩
    exact Bundle.forall₂_cells hrows hcells fun e he row cells hrow hcells =>
      hsound.showsRule hfound rfl rfl he (hids e he) hrow hcells
  · exact (isReported_run (c.compiling output) files).trans (isReported_run c files).symm

/-- The ids of rules, if all of them are texts. -/
def ids? (entries : List (Value × Value)) : Option (List Text) :=
  match entries with
  | [] => some []
  | (.str id, _) :: rest => (ids? rest).map (id :: ·)
  | _ => none

theorem map_fst_of_ids? {entries : List (Value × Value)} {ids : List Text}
    (h : ids? entries = some ids) : entries.map Prod.fst = ids.map .str := by
  fun_induction ids? entries generalizing ids with
  | case1 => rw [← Option.some.inj h]; rfl
  | case2 id _ rest ih =>
    obtain ⟨more, hmore, rfl⟩ := Option.map_eq_some_iff.1 h
    rw [List.map_cons, ih hmore]
    rfl
  | case3 => cases h

theorem forall_of_ids? {entries : List (Value × Value)} {ids : List Text}
    (h : ids? entries = some ids) : ∀ e ∈ entries, ∃ id, e.1 = .str id := by
  intro e he
  have hmem : e.1 ∈ ids.map Value.str := map_fst_of_ids? h ▸ List.mem_map_of_mem he
  obtain ⟨id, -, hid⟩ := List.mem_map.1 hmem
  exact ⟨id, hid.symm⟩

/-- A directory with a configuration of a rule under two ids, one of them off, and another rule. -/
def twoIds : Files where
  root := .directory [(Text.fileBytes "c.yaml",
    .file "rules: \x7bfoo/r: error, bpmnlint-plugin-foo/r: off, global: [warn, 1]\x7d".toUTF8)]
  working := []

/-- Of a rule that is on under one id and off under another, the row of the latter has no import. -/
theorem report_shows_module_twoIds :
    ∃ code module title rows,
      (⟨.compile, "c.yaml", none, none⟩ : Command).run twoIds = .success twoIds code ∧
      decode code = some module ∧ module.imports.length = 2 ∧
      (⟨.rules, "c.yaml", none, none⟩ : Command).run twoIds = .success twoIds
        (linesText ((reportTable title rows).lines Layout.consoleWidth ++
          [[], ("Summary: " : Text).toList ++
          ("Bundled 2 rule import(s) for 3 configured rule(s), 1 disabled" : Text).toList])) ∧
      rows.map (fun row => (row.importedAs.isEmpty, row.source.isEmpty))
        = [(false, false), (true, true), (false, false)] := by
  have hcode : ((⟨.rules, "c.yaml", none, none⟩ : Command).run twoIds).exitCode = 0 := by
    decide +kernel
  have checked : ((⟨.rules, "c.yaml", none, none⟩ : Command).bundled twoIds).toOption.any (fun b =>
      ids? b.rules.entries = some (["foo/r", "bpmnlint-plugin-foo/r", "global"] : List Text) &&
        b.rules.entries.map (fun e => Severity.isDisabled e.2) = [false, true, false] &&
        b.imports.length = 2 &&
        b.summary = ("Bundled 2 rule import(s) for 3 configured rule(s), 1 disabled" : Text))
      = true := by
    decide +kernel
  obtain ⟨hreport, -⟩ := report_shows_module (c := ⟨.rules, "c.yaml", none, none⟩) rfl twoIds
  obtain ⟨b, hb, hshows⟩ := hreport hcode
  rw [hb] at checked
  simp only [Except.toOption, Option.any_some, Bool.and_eq_true, decide_eq_true_eq] at checked
  obtain ⟨⟨⟨hids, hoff⟩, hlength⟩, hsummary⟩ := checked
  have hne : b.rules.entries ≠ [] := by
    intro hnil
    rw [hnil] at hoff
    cases hoff
  obtain ⟨code, module, _, title, rows, -, hprinted, hdecode, himports, -, -, -, hrun, hrows⟩ :=
    hshows hne (forall_of_ids? hids)
  rw [hsummary] at hrun
  refine ⟨code, module, title, rows, hprinted, hdecode, by rw [himports, List.length_map, hlength],
    hrun, ?_⟩
  rw [Bundle.map_isEmpty hrows, hoff]
  rfl

/-- A directory with a configuration of a rule whose name is in brackets. -/
def inBrackets : Files where
  root := .directory [(Text.fileBytes "c.yaml", .file "rules:\n  foo/[b]: error\n".toUTF8)]
  working := []

/-- **A name in brackets is taken for a tag**: the path that the module has the import from holds
the brackets, and no line of the report does. -/
theorem brackets_not_shown :
    ∃ b code module lines, (⟨.rules, "c.yaml", none, none⟩ : Command).bundled inBrackets = .ok b ∧
      b.rules.entries.map Prod.fst = [.str "foo/[b]"] ∧
      (⟨.compile, "c.yaml", none, none⟩ : Command).run inBrackets = .success inBrackets code ∧
      decode code = some module ∧
      module.imports = ([("rule_0", "bpmnlint-plugin-foo/rules/[b]")] : List (Text × Text)) ∧
      (⟨.rules, "c.yaml", none, none⟩ : Command).run inBrackets
        = .success inBrackets (linesText lines) ∧
      ∀ line ∈ lines, .char '[' ∉ line := by
  have hcode : ((⟨.rules, "c.yaml", none, none⟩ : Command).run inBrackets).exitCode = 0 := by
    decide +kernel
  have checked : ((⟨.rules, "c.yaml", none, none⟩ : Command).bundled inBrackets).toOption.any
      (fun b => ids? b.rules.entries = some (["foo/[b]"] : List Text) &&
        b.imports = [⟨"rule_0", "bpmnlint-plugin-foo/rules/[b]", "bpmnlint-plugin-foo/[b]"⟩] &&
        (b.report "c.yaml").toOption.any fun lines => lines.all fun line =>
          !line.contains (.char '['))
        = true := by
    decide +kernel
  obtain ⟨document, b, lines, hread, hbundle, hreport, hrun⟩ := run_report rfl hcode
  have hb : (⟨.rules, "c.yaml", none, none⟩ : Command).bundled inBrackets = .ok b := by
    rw [bundled, hread]
    exact hbundle
  rw [hb] at checked
  simp only [Except.toOption, Option.any_some, Bool.and_eq_true, decide_eq_true_eq] at checked
  obtain ⟨⟨hids, himports⟩, hlines⟩ := checked
  obtain ⟨code, table, -, hprinted, hdecode, -⟩ :=
    exists_module hread hbundle (forall_of_ids? hids)
  refine ⟨b, code, _, lines, hb, map_fst_of_ids? hids, hprinted, hdecode,
    by rw [Bundle.statements, himports]; rfl,
    hrun, ?_⟩
  rw [hreport] at hlines
  simp only [Option.any_some, List.all_eq_true, Bool.not_eq_true'] at hlines
  intro line hline hbracket
  have hno := hlines line hline
  rw [List.contains_iff_mem.2 hbracket] at hno
  cases hno

end Command

end LintBundle
