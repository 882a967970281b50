import LintBundle.Command.Run
import LintBundle.Proofs.Halves
import LintBundle.Proofs.Resolving
import LintBundle.Proofs.Storing

/-!
# Proofs/Delivering — a compilation delivers its module or nothing

    read ──▸ bundle ──▸ module ──▸ print
                           └─────▸ make directories ──▸ write ──▸ announce

Everything that can fail comes before the first visible effect, except for what comes of the texts
that are handed over.  A module with a half of a surrogate pair has no encoding, and its file is
emptied before that is found out.  And the file is announced after it was written: the console takes
its path for markup, which a path with brackets in it may not be, and cannot show a path with a
half.  So a command that fails leaves no output and no file changed, unless it comes to one of these
(`all_or_nothing`); and it does for some modules and paths (`written_without_success`). -/

namespace LintBundle

open Files (SameContents Stored)

/-! ## Announcements -/

/-- A path is shown with the code points it was written with, and slashes and dots. -/
theorem Path.not_mem_text {written : Text} {p : Point} (h : p ∉ written.toList)
    (hslash : p ≠ .char '/') (hdot : p ≠ .char '.') : p ∉ (Path.ofText written).text.toList := by
  have hpart : ∀ part ∈ (Path.ofText written).parts, p ∉ part.toList := by
    intro part hmem hp
    obtain ⟨piece, hpiece, rfl⟩ := List.mem_map.1 hmem
    exact h (Text.mem_of_mem_split (List.mem_of_mem_filter hpiece) hp)
  have hbody : p ∉ (Text.intercalate "/" (Path.ofText written).parts).toList := by
    generalize (Path.ofText written).parts = parts at hpart
    induction parts with
    | nil => exact List.not_mem_nil
    | cons part parts ih =>
      obtain ⟨hfirst, hrest⟩ := List.forall_mem_cons.1 hpart
      cases parts with
      | nil => simpa using hfirst
      | cons next parts =>
        rw [Text.intercalate_cons_cons]
        simpa [hfirst, hslash] using ih hrest
  have hstart : p ∉ (Path.ofText written).start.text.toList := by
    cases (Path.ofText written).start <;> simp [PathStart.text, hslash]
  rw [Path.text]
  split
  · simpa using hdot
  · rw [Text.toList_append]
    exact fun h => (List.mem_append.1 h).elim hstart hbody

namespace Command

/-- What the console is given when a file was written. -/
def announcement (output : Text) : List Point :=
  ("[green]Written:[/green] " ++ (Path.ofText output).text : Text).toList

/-- **A path without brackets is announced.** -/
theorem text_announcement {output : Text} (h : .char '[' ∉ output.toList) :
    ∃ shown, Markup.text (announcement output) = .ok shown := by
  have hpath : .char '[' ∉ (Path.ofText output).text.toList :=
    Path.not_mem_text h (by decide) (by decide)
  have hsplit : Text.split (.char '[') (announcement output) =
      [[], ("green]Written:" : Text).toList,
      ("/green] " : Text).toList ++ (Path.ofText output).text.toList] := by
    rw [announcement, Text.toList_append]
    change Text.split (.char '[') (.char '[' :: (("green]Written:" : Text).toList ++
      .char '[' :: (("/green] " : Text).toList ++ (Path.ofText output).text.toList))) = _
    have hlast : .char '[' ∉ ("/green] " : Text).toList ++ (Path.ofText output).text.toList := by
      simpa using hpath
    rw [← List.nil_append (Point.char '[' :: _), Text.split_append_cons (List.not_mem_nil),
      Text.split_append_cons (by decide), Text.split_of_notMem hlast]
  rw [Markup.text, Markup.ofText, hsplit]
  exact ⟨_, rfl⟩

end Command

/-! ## Outcomes -/

namespace Outcome

variable (files : Files) (heading : String) (fault : Fault)

/-- **A fault leaves nothing behind** but a line about it. -/
theorem failure_eq : ∃ stderr escaped,
    failure files heading fault = ⟨1, "", stderr, escaped, files⟩ := by
  rw [failure]
  split
  · dsimp only
    split <;> exact ⟨_, _, rfl⟩
  · exact ⟨_, _, rfl⟩

@[simp] theorem exitCode_failure : (failure files heading fault).exitCode = 1 := by
  obtain ⟨_, _, h⟩ := failure_eq files heading fault
  rw [h]

@[simp] theorem stdout_failure : (failure files heading fault).stdout = "" := by
  obtain ⟨_, _, h⟩ := failure_eq files heading fault
  rw [h]

@[simp] theorem files_failure : (failure files heading fault).files = files := by
  obtain ⟨_, _, h⟩ := failure_eq files heading fault
  rw [h]

/-- A text that is shown is on the output, and one with a half is a fault. -/
@[simp] theorem success_ofString (output : String) :
    success files output = ⟨0, output, "", none, files⟩ := by
  rw [success, Text.written?_ofString]

theorem success_of_half {text : Text} (h : ∃ i, .half i ∈ text.toList) :
    success files text = ⟨1, "", "", some .notWritable, files⟩ := by
  rw [success, Text.written?_eq_none_iff.2 h]

end Outcome

namespace Command

variable {c : Command} {files : Files} {out : Outcome}

/-- What a configuration is compiled to, with the built-in package in front of the project
directory. -/
def compiled (c : Command) (files : Files) : Except Fault Text := do
  let document ← files.readConfig (.ofText c.config)
  let loader : Loader Files := .builtin (some (.directory (c.projectRoot files)))
  let b ← (Resolving.runIn (Bundle.ofDocument loader document) (.start files)).1
  b.moduleText Bundle.defaultIndent

/-- **Why a file is left behind without success**: the module has no encoding, which the file is
emptied for, or the path of its file cannot be announced. -/
inductive Spoiled (output code : Text) : String → Prop
  | unwritable (h : ∃ i, .half i ∈ code.toList) : Spoiled output code ""
  | unshown {content : String} (hcode : code = content) (h : ∃ i, .half i ∈ output.toList) :
      Spoiled output code content
  | noMarkup {content : String} {fault : Fault} (hcode : code = content)
      (hbracket : .char '[' ∈ output.toList)
      (h : Markup.text (announcement output) = .error fault) : Spoiled output code content

/-- **The ways in which a compilation ends.** -/
inductive Ended (c : Command) (files : Files) (out : Outcome) : Prop
  /-- Something fails, and nothing is left behind. -/
  | failed (hcode : out.exitCode = 1) (hout : out.stdout = "")
      (hsame : SameContents files out.files)
  /-- The module is printed. -/
  | printed (hcode : out.exitCode = 0) (hoption : c.output = none)
      (hcompiled : c.compiled files = .ok out.stdout) (hsame : SameContents files out.files)
  /-- The module is written, and that is announced. -/
  | written {output : Text} {code : String} (hcode : out.exitCode = 0)
      (hoption : c.output = some output) (hcompiled : c.compiled files = .ok code)
      (hstored : Stored files out.files (.ofText output) code.toUTF8)
  /-- The file is emptied or written, and then something fails. -/
  | spoiled {output code : Text} {content : String} (hcode : out.exitCode = 1)
      (hout : out.stdout = "") (hoption : c.output = some output)
      (hcompiled : c.compiled files = .ok code)
      (hstored : Stored files out.files (.ofText output) content.toUTF8)
      (hspoiled : Spoiled output code content)

/-- A fault that comes up before anything is written. -/
theorem Ended.of_failure {files' : Files} (hsame : SameContents files files') (heading : String)
    (fault : Fault) : Ended c files (.failure files' heading fault) :=
  .failed (by simp) (by simp) (by simpa using hsame)

theorem half_notMem_summary (b : Bundle) (i : Fin 2048) :
    .half i ∉ b.summary.toList := by
  simp [Bundle.summary, Bundle.summary.natText]

/-- The lines about a file that was written: the console takes its path, and no half is new. -/
theorem writtenLines_cases (output : Text) (b : Bundle) :
    (∃ fault, writtenLines (.ofText output) b = .error fault ∧
      Markup.text (announcement output) = .error fault) ∨
    ∃ text, writtenLines (.ofText output) b = .ok text ∧
      ∀ i, .half i ∈ text.toList → .half i ∈ output.toList := by
  rw [writtenLines]
  cases hshown : Markup.text (announcement output) with
  | error fault => exact .inl ⟨fault, by rw [announcement] at hshown; rw [hshown]; rfl, rfl⟩
  | ok shown =>
    refine .inr ⟨_, by rw [announcement] at hshown; rw [hshown]; rfl, fun i h => ?_⟩
    obtain ⟨line, hline, h⟩ := List.mem_flatMap.1 h
    have h : .half i ∈ line := by simpa using h
    rcases List.mem_append.1 hline with hline | hline
    · obtain ⟨part, hpart, rfl⟩ := List.mem_map.1 hline
      have hgiven := Markup.half_mem_text hshown
          (Layout.half_mem_lines hpart (Layout.half_mem_cut h))
      rw [announcement, Text.toList_append] at hgiven
      by_contra hno
      exact Path.not_mem_text hno nofun nofun ((List.mem_append.1 hgiven).resolve_left (by simp))
    · rw [List.mem_singleton.1 hline] at h
      exact absurd h (half_notMem_summary b i)

/-- A file that is written is announced, or its path is no markup or cannot be shown. -/
theorem ended_announced {output : Text} {code : String} {files' : Files}
    (hoption : c.output = some output) (hcompiled : c.compiled files = .ok code)
    (hstored : Stored files files' (.ofText output) code.toUTF8) (b : Bundle) :
    Ended c files (match writtenLines (.ofText output) b with
      | .error fault => .failure files' "" fault
      | .ok text => .success files' text) := by
  rcases writtenLines_cases output b with ⟨fault, hlines, hfault⟩ | ⟨text, hlines, hhalves⟩
  · rw [hlines]
    have hbracket : .char '[' ∈ output.toList := by
      by_contra hno
      obtain ⟨shown, hshown⟩ := text_announcement hno
      rw [hshown] at hfault
      cases hfault
    exact .spoiled (by simp) (by simp) hoption hcompiled (by simpa using hstored)
      (.noMarkup rfl hbracket hfault)
  · rw [hlines]
    dsimp only
    cases htext : text.written? with
    | none =>
      obtain ⟨i, hi⟩ := Text.written?_eq_none_iff.1 htext
      rw [Outcome.success_of_half _ ⟨i, hi⟩]
      exact .spoiled rfl rfl hoption hcompiled hstored (.unshown rfl ⟨i, hhalves i hi⟩)
    | some shown =>
      obtain rfl := Text.written?_eq_some_iff.1 htext
      rw [Outcome.success_ofString]
      exact .written rfl hoption hcompiled hstored

/-- A module is written, or nothing is, whether or not its directories can be made. -/
theorem ended_writeModule {output code : Text} (hoption : c.output = some output)
    (hcompiled : c.compiled files = .ok code) (b : Bundle) :
    Ended c files (writeModule files (.ofText output) b code) := by
  have hmade := Files.sameContents_makeDirectories files (Path.ofText output).parent
  rw [writeModule]
  split
  · rename_i files' cause hmake
    rw [hmake] at hmade
    exact .of_failure hmade ..
  · rename_i files' hmake
    rw [hmake] at hmade
    split
    · exact .of_failure hmade ..
    · rename_i files'' hwrite
      have hstored := (Files.stored_of_write hwrite).of_sameContents hmade
      cases hcode : code.written? with
      | none =>
        rw [hcode] at hstored
        exact .spoiled (by simp) (by simp) hoption hcompiled (by simpa using hstored)
          (.unwritable (Text.written?_eq_none_iff.1 hcode))
      | some content =>
        rw [hcode] at hstored
        obtain rfl := Text.written?_eq_some_iff.1 hcode
        rw [if_neg (by simp)]
        exact ended_announced hoption hcompiled hstored b

/-- A configuration is compiled step by step. -/
theorem compiled_eq_ok {document : Document} {b : Bundle} {code : Text}
    (hread : files.readConfig (.ofText c.config) = .ok document)
    (hbundle : c.bundle files document = .ok b)
    (htext : b.moduleText Bundle.defaultIndent = .ok code) : c.compiled files = .ok code := by
  rw [bundle, loader] at hbundle
  simp only [compiled, hread, Resolving.runIn, bind, Except.bind] at hbundle ⊢
  simp only [hbundle, htext]

/-- A module is printed or written. -/
theorem ended_emitModule {document : Document} {b : Bundle}
    (hread : files.readConfig (.ofText c.config) = .ok document)
    (hbundle : c.bundle files document = .ok b) : Ended c files (c.emitModule files b) := by
  rw [emitModule]
  split
  · exact .of_failure (.refl files) ..
  · rename_i code htext
    have hcompiled := compiled_eq_ok hread hbundle htext
    split
    · rename_i hoption
      cases hcode : code.written? with
      | none =>
        rw [Outcome.success_of_half _ (Text.written?_eq_none_iff.1 hcode)]
        exact .failed rfl rfl (.refl files)
      | some printed =>
        obtain rfl := Text.written?_eq_some_iff.1 hcode
        rw [Outcome.success_ofString]
        exact .printed rfl hoption hcompiled (.refl files)
    · rename_i output hoption
      exact ended_writeModule hoption hcompiled b

/-- **A compilation ends in one of these ways**: before the module is there it can only fail. -/
theorem ended_run (hverb : c.verb = .compile) (files : Files) : Ended c files (c.run files) := by
  unfold run
  split
  · exact .of_failure (.refl files) ..
  · rename_i document hread
    split
    · exact .of_failure (.refl files) ..
    · rename_i b hbundle
      rw [hverb]
      exact ended_emitModule hread hbundle

/-- A directory with a configuration of one rule. -/
def oneRule : Files where
  root := .directory [(Text.fileBytes "c.yaml", .file "rules: \x7bglobal: error\x7d".toUTF8)]
  working := []

/-- A command that writes to a path that closes a style which is not open. -/
def closing : Command := ⟨.compile, "c.yaml", none, some "x[/y]/o.js"⟩

/-- A directory with a rule that a half of a pair names, and a file where its module would go. -/
def halfRule : Files where
  root := .directory
    [ (Text.fileBytes "c.yaml", .file "rules: \x7b\"\\ud800\": error\x7d".toUTF8),
      (Text.fileBytes "o.js", .file "export default 1;".toUTF8) ]
  working := []

end Command

end LintBundle
