import LintBundle.Loader.Directory
import LintBundle.Proofs.Loading

/-!
# Proofs/Reporting — which bad files are reported

A file that is missing, breaks its grammar or has the wrong shape is reported as a fault of that
file, and a specifier that leads nowhere as one that is not found.  What is not reported is settled
by `readConfig_reported_iff` and `readModule_reported_iff`: the bytes of the file are no UTF-8, its
text has a fault other than that of the grammar, or its path cannot even be asked for.

In a text without tags a fault other than that of the grammar is one of nesting, of a code or a
version that the lexer cannot read, or of a plain scalar that is spelled as a number and is none
(`Yaml.Unread`). -/

namespace LintBundle

variable {α β : Type}

/-- What ends in a result, or in a fault that is allowed. -/
def Ends (allowed : Fault → Bool) : Except Fault α → Prop
  | .ok _ => True
  | .error fault => allowed fault = true

instance (allowed : Fault → Bool) (x : Except Fault α) : Decidable (Ends allowed x) :=
  match x with
  | .ok _ => isTrue trivial
  | .error fault => inferInstanceAs (Decidable (allowed fault = true))

/-- What comes after does not matter, if it ends so in any case. -/
theorem ends_bind_iff {allowed : Fault → Bool} {x : Except Fault α} {f : α → Except Fault β}
    (h : ∀ a, Ends allowed (f a)) : Ends allowed (x >>= f) ↔ Ends allowed x := by
  cases x with
  | error fault => exact Iff.rfl
  | ok a => exact iff_of_true (h a) trivial

namespace Fault

/-- The faults that are reported as those of a file. -/
def isConfigFile : Fault → Bool
  | configFile .. => true
  | _ => false

/-- The faults of a specifier that leads nowhere. -/
def isNotFound : Fault → Bool
  | notFound .. => true
  | _ => false

/-- Faults among which are those that are reported as those of a file, and none of those that its
path, its encoding or its text may have besides. -/
structure Reports (allowed : Fault → Bool) : Prop where
  configFile : ∀ path reason, allowed (.configFile path reason) = true
  access : ∀ cause, allowed (.access cause) = false
  notUnicode : allowed .notUnicode = false
  text : ∀ cause, allowed (.text cause) = false

theorem reports_isConfigFile : Reports isConfigFile :=
  ⟨fun _ _ => rfl, fun _ => rfl, rfl, fun _ => rfl⟩

theorem reports_or_isNotFound : Reports fun fault => fault.isConfigFile || fault.isNotFound :=
  ⟨fun _ _ => rfl, fun _ => rfl, rfl, fun _ => rfl⟩

end Fault

namespace Files

variable {files : Files} {p : Path} {allowed : Fault → Bool}

/-! ## One file -/

/-- Bytes whose text is read, or breaks the grammar. -/
def Parses (parse : List Char → Except TextFault α) (content : ByteArray) : Prop :=
  ∃ cs, decode content = some cs ∧ ∀ cause, parse cs = .error cause → cause = .malformed

theorem ends_parsed_iff (ha : Fault.Reports allowed) {result : Except TextFault α} :
    Ends allowed (parsed p result) ↔ ∀ cause, result = .error cause → cause = .malformed := by
  cases result with
  | ok a => exact iff_of_true trivial fun _ h => by cases h
  | error cause =>
    have hother : cause ≠ .malformed → Ends allowed (parsed p (.error cause) : Except Fault α) →
        False := by
      intro hne h
      have hparsed : (parsed p (.error cause) : Except Fault α) = .error (.text cause) := by
        cases cause <;> first | exact absurd rfl hne | rfl
      rw [hparsed, Ends, ha.text] at h
      cases h
    constructor
    · rintro h _ ⟨⟩
      by_contra hne
      exact hother hne h
    · intro h
      rw [h cause rfl]
      exact ha.configFile _ _

/-- **A file is reported on** if its path can be asked for, and its bytes are a text that is read or
breaks the grammar. -/
theorem ends_read_iff (ha : Fault.Reports allowed) (parse : List Char → Except TextFault α) :
    Ends allowed (do parsed p (parse (← files.readText p))) ↔
      files.content p ≠ .error .unusable ∧
        ∀ content, files.content p = .ok content → Parses parse content := by
  unfold readText
  rcases hcontent : files.content p with cause | content
  · refine ⟨fun h => ⟨?_, by simp⟩, fun h => ?_⟩
    · rintro ⟨⟩
      have h : allowed (.access .unusable) = true := h
      rw [ha.access] at h
      cases h
    · cases cause <;> first | exact absurd rfl h.1 | exact ha.configFile _ _
  · cases hdecode : decode content with
    | none =>
      simp only [hdecode, Option.elim_none]
      refine iff_of_false (fun h => ?_) fun h => ?_
      · have h : allowed .notUnicode = true := h
        rw [ha.notUnicode] at h
        cases h
      · obtain ⟨cs, hcs, -⟩ := h.2 content rfl
        rw [hdecode] at hcs
        cases hcs
    | some cs =>
      simp only [hdecode, Option.elim_some]
      change Ends allowed (parsed p (parse cs)) ↔ _
      rw [ends_parsed_iff ha]
      refine ⟨fun h => ⟨by simp, ?_⟩, fun h => ?_⟩
      · rintro _ ⟨⟩
        exact ⟨cs, hdecode, h⟩
      · obtain ⟨cs', hcs, h⟩ := h.2 content rfl
        rw [hdecode] at hcs
        obtain rfl := Option.some.inj hcs
        exact h

/-- A value of the wrong shape is reported as a fault of its file. -/
theorem ends_shaped (p : Path) (v : Value) :
    Ends Fault.isConfigFile (match Document.ofValue v with
      | .ok document => .ok document
      | .error cause => .error (.configFile p.text cause.message)) := by
  split
  · trivial
  · exact rfl

/-- **When a configuration file is reported on.** -/
theorem readConfig_reported_iff (files : Files) (p : Path) :
    Ends Fault.isConfigFile (files.readConfig p) ↔
      files.content p ≠ .error .unusable ∧
        ∀ content, files.content p = .ok content → Parses Yaml.read content := by
  rw [← ends_read_iff Fault.reports_isConfigFile, ← ends_bind_iff (ends_shaped p), bind_assoc]
  rfl

/-! ## The files of a specifier -/

/-- The parser of a file, by its name. -/
def parser (p : Path) (cs : List Char) : Except TextFault Value :=
  if p.hasExtension ".json" then (Json.read cs).map Json.toValue else Yaml.read cs

/-- The file that a specifier leads to, if it leads to one. -/
def moduleFile (files : Files) (root : Path) (specifier : Text) : Except Fault (Option Path) := do
  let target := moduleTarget root specifier
  if ← (files.isDirectory target).mapError .access then
    files.firstFile (manifestFiles.map target.child)
  else if ← (files.isFile target).mapError .access then return some target
  else return none

theorem readValue_eq (files : Files) (p : Path) :
    files.readValue p = (do parsed p (parser p (← files.readText p))) := by
  unfold readValue parser
  split <;> rfl

/-- **A specifier is answered by the file it leads to.** -/
theorem readModule_eq (files : Files) (root : Path) (specifier : Text) : ∃ reason,
    files.readModule root specifier = (files.moduleFile root specifier).bind fun
      | some p => files.readValue p
      | none => .error (.notFound specifier reason) := by
  unfold readModule moduleFile
  dsimp only
  rcases (files.isDirectory (moduleTarget root specifier)).mapError Fault.access with fault | _ | _
  · exact ⟨none, rfl⟩
  · refine ⟨some ("no such file or directory: " ++ (moduleTarget root specifier).text), ?_⟩
    rcases (files.isFile (moduleTarget root specifier)).mapError Fault.access
      with fault | _ | _ <;> rfl
  · refine ⟨some ("no manifest (" ++ Text.intercalate ", " manifestFiles ++ ") in "
      ++ (moduleTarget root specifier).text), ?_⟩
    unfold readManifest
    rcases files.firstFile (manifestFiles.map (moduleTarget root specifier).child) with
      fault | _ | p <;> rfl

/-- Looking at a path fails only where it is too long to be asked for. -/
theorem map_look_error {p : Path} {f : Option Tree → β} {cause : PathFault}
    (h : (files.look p).map f = .error cause) : cause = .nameTooLong := by
  unfold look at h
  split at h
  · cases h
  · exact (Except.error.inj h).symm
  · cases h

theorem firstFile_error {paths : List Path} {fault : Fault}
    (h : files.firstFile paths = .error fault) : fault = .access .nameTooLong := by
  induction paths with
  | nil => cases h
  | cons p rest ih =>
    rw [firstFile] at h
    rcases hp : files.isFile p with cause | _ | _ <;> rw [hp] at h
    · rw [← Except.error.inj h, map_look_error hp]
    · exact ih h
    · cases h

/-- A file that is found has bytes. -/
theorem content_of_isFile {files : Files} {p : Path} (h : files.isFile p = .ok true) :
    ∃ content, files.content p = .ok content := by
  unfold isFile at h
  cases hfind : files.find p with
  | error cause =>
    rw [look, hfind] at h
    cases cause <;> cases h
  | ok t =>
    rw [look, hfind] at h
    cases t with
    | file content => exact ⟨content, by rw [Files.content, hfind]; rfl⟩
    | directory entries => cases h

/-- The first file among paths is a file. -/
theorem isFile_of_firstFile {paths : List Path} {p : Path}
    (h : files.firstFile paths = .ok (some p)) : files.isFile p = .ok true := by
  induction paths with
  | nil => cases h
  | cons q rest ih =>
    rw [firstFile] at h
    cases hq : files.isFile q with
    | error cause =>
      rw [hq] at h
      cases h
    | ok isFile =>
      rw [hq] at h
      cases isFile with
      | false => exact ih h
      | true =>
        obtain rfl : q = p := by simpa using Except.ok.inj h
        exact hq

theorem isFile_of_moduleFile {root : Path} {specifier : Text} {p : Path}
    (h : files.moduleFile root specifier = .ok (some p)) : files.isFile p = .ok true := by
  unfold moduleFile at h
  dsimp only at h
  rcases hdirectory : files.isDirectory (moduleTarget root specifier) with cause | _ | _ <;>
    rw [hdirectory] at h
  · cases h
  · rcases hfile : files.isFile (moduleTarget root specifier) with cause | _ | _ <;>
      rw [hfile] at h
    · cases h
    · cases Except.ok.inj h
    · obtain rfl : moduleTarget root specifier = p := by simpa using Except.ok.inj h
      exact hfile
  · exact isFile_of_firstFile h

/-- **The only fault of looking for a module's file** is that a path is too long to be asked for. -/
theorem moduleFile_error {root : Path} {specifier : Text} {fault : Fault}
    (h : files.moduleFile root specifier = .error fault) : fault = .access .nameTooLong := by
  unfold moduleFile at h
  dsimp only at h
  rcases hdirectory : files.isDirectory (moduleTarget root specifier) with cause | _ | _ <;>
    rw [hdirectory] at h
  · rw [← Except.error.inj h, map_look_error hdirectory]
  · rcases hfile : files.isFile (moduleTarget root specifier) with cause | _ | _ <;>
      rw [hfile] at h
    · rw [← Except.error.inj h, map_look_error hfile]
    · cases h
    · cases h
  · exact firstFile_error h

/-- **When a specifier is reported on.** -/
theorem readModule_reported_iff (files : Files) (root : Path) (specifier : Text) :
    Ends (fun fault => fault.isConfigFile || fault.isNotFound) (files.readModule root specifier) ↔
      ∃ found, files.moduleFile root specifier = .ok found ∧
        ∀ p ∈ found, ∀ content, files.content p = .ok content → Parses (parser p) content := by
  obtain ⟨reason, heq⟩ := readModule_eq files root specifier
  rw [heq]
  rcases hfile : files.moduleFile root specifier with fault | _ | p
  · refine iff_of_false (fun h => ?_) (by simp)
    rw [moduleFile_error hfile] at h
    cases h
  · exact iff_of_true rfl ⟨none, rfl, by simp⟩
  · obtain ⟨content, hcontent⟩ := content_of_isFile (isFile_of_moduleFile hfile)
    change Ends _ (files.readValue p) ↔ _
    rw [readValue_eq, ends_read_iff Fault.reports_or_isNotFound, hcontent]
    simp [hcontent]

end Files

/-! ## The faults of texts -/

namespace Yaml

/-- The spellings of truth values, of `null` and of texts are all read. -/
theorem number_of_read_error {cs : List Char} {cause : TextFault}
    (h : (Tag.ofSpelling cs).read (cs.map .char) = .error cause) (hcause : cause ≠ .malformed)
    (hneat : EndsNeatly cs) : Tag.ofSpelling cs = .int ∨ Tag.ofSpelling cs = .float := by
  have hmem := ofSpelling_mem cs
  have hbool : Tag.ofSpelling cs ≠ .bool := by
    intro htag
    have hall : ∀ cs ∈ ["true", "True", "TRUE", "false", "False", "FALSE"].map String.toList,
        (Tag.readBool cs).toOption.isSome = true := by decide
    have hread := hall cs (mem_of_ofSpelling_eq_bool hneat htag)
    rw [htag, Tag.read, Text.shapes_map_char] at h
    have h : Tag.readBool cs = .error cause := h
    rw [h] at hread
    cases hread
  generalize Tag.ofSpelling cs = tag at h hmem hbool
  simp only [List.mem_cons, List.not_mem_nil, or_false] at hmem
  rcases hmem with rfl | rfl | rfl | rfl | rfl | rfl | rfl | rfl
  · exact absurd rfl hbool
  · exact .inr rfl
  · exact .inl rfl
  · exact absurd (Except.error.inj h).symm hcause
  · cases h
  · exact absurd (Except.error.inj h).symm hcause
  · exact absurd (Except.error.inj h).symm hcause
  · cases h

/-- **Why tokens without tags are not read.** -/
inductive Unread (ts : List Token) : TextFault → Prop
  /-- They break the grammar. -/
  | grammar : Unread ts .malformed
  /-- Collections lie too deep in one another. -/
  | depth : Unread ts .tooDeep
  /-- The lexer comes to a code or a version that it cannot read. -/
  | lexer {cause : TextFault} (mem : .unreadable cause ∈ ts) (isLexical : cause.IsLexical) :
    Unread ts cause
  /-- A plain scalar is spelled as a number, and is none. -/
  | number {cause : TextFault} {cs : List Char} (mem : .scalar (cs.map .char) true ∈ ts)
    (spelled : Tag.ofSpelling cs = .int ∨ Tag.ofSpelling cs = .float)
    (reads : (Tag.ofSpelling cs).read (cs.map .char) = .error cause) : Unread ts cause

theorem unread_of_read {cs : List Char} (hu : Token.Untagged (Token.scan cs)) {cause : TextFault}
    (h : read cs = .error cause) : Unread (Token.scan cs) cause := by
  by_cases hcause : cause = .malformed
  · exact hcause ▸ .grammar
  have htold := told_ofTokens (Token.scan cs)
  unfold read valueOf at h
  rcases hdocument : Graph.ofTokens? Tag.ofSpelling (Token.scan cs) with cause' | _ | ⟨g, root⟩ <;>
    rw [hdocument] at h htold
  · obtain rfl := Except.error.inj h
    rcases htold with hm | hd | hmem
    · exact absurd hm hcause
    · exact hd ▸ .depth
    · exact .lexer hmem (isNeat_of_mem_scan hmem)
  · cases h
  · have htells : Tells (Token.scan cs) g.nodes.toList := htold hu
    have hfinds := madeOf_content htells.plain root
    have hcontent : g.content root = .error cause := h
    rw [hcontent] at hfinds
    obtain hm | ⟨n, text, hbody, hread⟩ := (hfinds : Faulty g cause)
    · exact absurd hm hcause
    rcases htells.scalar hbody with hempty | ⟨isPlain, hmem, htag⟩
    · rw [Graph.tag, hempty] at hread
      cases hread
    rw [htag] at hread
    cases isPlain with
    | false => cases hread
    | true =>
      obtain ⟨cs, rfl, hneat⟩ := isNeat_of_mem_scan hmem
      rw [if_pos rfl, Text.shapes_map_char] at hread
      exact .number hmem (number_of_read_error hread hcause hneat) hread

end Yaml

namespace Json

/-- The faults of JSON texts. -/
def Refused (cause : TextFault) : Prop :=
  cause = .malformed ∨ cause = .notANumber ∨ cause = .tooDeep

/-- What is read, or refused for one of these causes. -/
def Reads (x : Except TextFault α) : Prop := ∀ cause, x = .error cause → Refused cause

namespace Reads

theorem ok (a : α) : Reads (.ok a) := fun _ h => by cases h

theorem malformed : Reads (.error .malformed : Except TextFault α) :=
  fun _ h => .inl (Except.error.inj h).symm

theorem tooDeep : Reads (throw .tooDeep : Except TextFault α) :=
  fun _ h => .inr (.inr (Except.error.inj h).symm)

theorem bind {x : Except TextFault α} {f : α → Except TextFault β} (hx : Reads x)
    (hf : ∀ a, Reads (f a)) : Reads (x >>= f) := by
  cases x with
  | error cause => exact fun cause' h => hx cause' (congrArg Except.error (Except.error.inj h))
  | ok a => exact hf a

theorem ite {c : Prop} [Decidable c] {x y : Except TextFault α} (hx : Reads x) (hy : Reads y) :
    Reads (if c then x else y) := by
  split
  · exact hx
  · exact hy

end Reads

namespace Reader

theorem reads_text (cs : List Char) : Reads (text cs) := by
  unfold text
  split
  · exact .ok _
  · exact .malformed

theorem reads_number (negative : Bool) (cs : List Char) : Reads (number negative cs) := by
  unfold number
  dsimp only
  refine .ite .malformed (.ite (.ite ?_ (.ok _)) (.ok _))
  exact fun _ h => .inr (.inl (Except.error.inj h).symm)

theorem reads_scalar (cs : List Char) : Reads (scalar cs) := by
  unfold scalar
  split
  · exact .ok _
  · split
    · exact reads_number _ _
    · exact reads_number _ _

/-- What begins one more level, if there is room for it. -/
theorem reads_level {room : Nat} {inside : Unit → Except TextFault α} (h : ∀ u, Reads (inside u)) :
    Reads (if room = 0 then throw .tooDeep >>= inside else inside ()) :=
  .ite (Reads.tooDeep.bind h) (h ())

section Step

variable {fuel : Nat} (hvalue : ∀ room cs, Reads (value room fuel cs))
  (hitems : ∀ room cs, Reads (items room fuel cs))
  (hmembers : ∀ room cs, Reads (members room fuel cs))

include hitems hmembers in
theorem reads_value_succ (room : Nat) (cs : List Char) : Reads (value room (fuel + 1) cs) := by
  rw [value]
  split
  · exact (reads_text _).bind fun _ => .ok _
  · refine reads_level fun _ => ?_
    split
    · exact .ok _
    · exact (hitems _ _).bind fun _ => .ok _
  · refine reads_level fun _ => ?_
    split
    · exact .ok _
    · exact (hmembers _ _).bind fun _ => .ok _
  · exact reads_scalar _

include hvalue hitems in
theorem reads_items_succ (room : Nat) (cs : List Char) : Reads (items room (fuel + 1) cs) := by
  rw [items]
  refine (hvalue room cs).bind fun found => ?_
  dsimp only
  split
  · exact (hitems room _).bind fun _ => .ok _
  · exact .ok _
  · exact .malformed

include hvalue hmembers in
theorem reads_members_succ (room : Nat) (cs : List Char) : Reads (members room (fuel + 1) cs) := by
  rw [members]
  split
  · refine (reads_text _).bind fun found => ?_
    dsimp only
    split
    · refine (hvalue room _).bind fun found => ?_
      split
      · exact (hmembers room _).bind fun _ => .ok _
      · exact .ok _
      · exact .malformed
    · exact .malformed
  · exact .malformed

end Step

theorem reads_value (fuel : Nat) : (∀ room cs, Reads (value room fuel cs)) ∧
    (∀ room cs, Reads (items room fuel cs)) ∧ ∀ room cs, Reads (members room fuel cs) := by
  induction fuel with
  | zero => exact ⟨fun _ _ => .malformed, fun _ _ => .malformed, fun _ _ => .malformed⟩
  | succ fuel ih =>
    obtain ⟨hvalue, hitems, hmembers⟩ := ih
    exact ⟨reads_value_succ hitems hmembers, reads_items_succ hvalue hitems,
      reads_members_succ hvalue hmembers⟩

end Reader

theorem fault_of_read {cs : List Char} {cause : TextFault} (h : read cs = .error cause) :
    Refused cause := by
  revert h
  exact ((Reader.reads_value _).1 _ _).bind (fun _ => .ite (.ok _) .malformed) cause

end Json

namespace Files

/-- **Which bad files are reported.**  A configuration, and the answer to a specifier, end in a
result or in a reported fault exactly if the path can be asked for, and the bytes of the file are a
text that is read or breaks the grammar.  A text without tags has another fault for three reasons
only, and a JSON text for two. -/
theorem bad_files_reported (files : Files) :
    (∀ p, Ends Fault.isConfigFile (files.readConfig p) ↔
      files.content p ≠ .error .unusable ∧
        ∀ content, files.content p = .ok content → Parses Yaml.read content) ∧
    (∀ root specifier,
      Ends (fun fault => fault.isConfigFile || fault.isNotFound) (files.readModule root specifier) ↔
        ∃ found, files.moduleFile root specifier = .ok found ∧
          ∀ p ∈ found, ∀ content, files.content p = .ok content → Parses (parser p) content) ∧
    (∀ root specifier fault, files.moduleFile root specifier = .error fault →
      fault = .access .nameTooLong) ∧
    (∀ cs cause, Yaml.Token.Untagged (Yaml.Token.scan cs) → Yaml.read cs = .error cause →
      Yaml.Unread (Yaml.Token.scan cs) cause) ∧
    ∀ cs cause, Json.read cs = .error cause → Json.Refused cause :=
  ⟨files.readConfig_reported_iff, files.readModule_reported_iff, fun _ _ _ h => moduleFile_error h,
    fun _ _ hu h => Yaml.unread_of_read hu h, fun _ _ h => Json.fault_of_read h⟩

/-- Whether something fails with a fault. -/
def failsAs (cause : TextFault) : Except TextFault α → Bool
  | .ok _ => false
  | .error other => other = cause

theorem eq_error_of_failsAs {cause : TextFault} {x : Except TextFault α}
    (h : failsAs cause x = true) : x = .error cause := by
  cases x with
  | ok a => cases h
  | error other => rw [of_decide_eq_true h]

/-- A directory with three files: bytes that are no text, a number without digits, and brackets that
are not closed. -/
def badFiles : Files where
  root := .directory [(Text.fileBytes "latin.yaml", .file ⟨#[0xff]⟩),
    (Text.fileBytes "digits.yaml", .file "0b_".toUTF8),
    (Text.fileBytes "open.yaml", .file "[".toUTF8)]
  working := []

/-- The brackets are reported, the number is not: it is one by its spelling alone. -/
theorem bad_files_reported_numbers :
    Ends Fault.isConfigFile (badFiles.readConfig (.ofText "open.yaml")) ∧
      ¬ Ends Fault.isConfigFile (badFiles.readConfig (.ofText "digits.yaml")) ∧
      Yaml.Unread (Yaml.Token.scan "0b_".toList) .notANumber := by
  obtain ⟨-, -, -, hunread, -⟩ := badFiles.bad_files_reported
  have hnumber : Yaml.read "0b_".toList = .error .notANumber :=
    eq_error_of_failsAs (by decide +kernel)
  exact ⟨by decide +kernel, by decide +kernel, hunread _ _ (by decide +kernel) hnumber⟩

/-- **Not every bad file is reported**: bytes that are no text end a configuration and a look-up. -/
theorem latin_not_reported :
    ¬ Ends Fault.isConfigFile (badFiles.readConfig (.ofText "latin.yaml")) ∧
      ¬ Ends (fun fault => fault.isConfigFile || fault.isNotFound)
        (badFiles.readModule (.ofText ".") "./latin.yaml") := by
  decide +kernel

end Files

end LintBundle
