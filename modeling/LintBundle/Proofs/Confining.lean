import LintBundle.Loader.Directory
import LintBundle.Proofs.Noting
import LintBundle.Proofs.Qualifying
import LintBundle.Proofs.Remembering

/-!
# Proofs/Confining — plugins are looked for inside the project

    rule id, reference ──▸ plugin ──specifier──▸ confined specifier ──▸ paths below the root

Whatever text addresses a plugin, what a loader is asked for is the package being compiled, the file
that names it, or a package of one or two names that lead down (`Confined`).  The slashes, dots and
signs a text may hold do not get through: a plugin's name is behind a prefix, and a scope is more
than dots.  So a project directory reads what lies at its root, or in the directory packages are
installed in, one or two names down, and the manifests right there (`InProject`); its answer depends
on nothing else.
-/

namespace LintBundle

open Resolving (Keeps)

variable {σ : Type} {loader : Loader σ}

/-! ## Names that lead down -/

/-- **A name that leads one step down**: it is the name of an entry of a directory. -/
structure LeadsDown (name : Text) : Prop where
  nonempty : name ≠ ""
  notHere : name ≠ "."
  notUp : name ≠ ".."
  noSlash : .char '/' ∉ name.toList

namespace LeadsDown

theorem of_toList {name : Text} {c : Point} {cs : List Point} (h : name.toList = c :: cs)
    (hc : c ≠ .char '.') (hs : .char '/' ∉ name.toList) : LeadsDown name where
  nonempty := by rintro rfl; cases h
  notHere := by rintro rfl; exact hc (List.cons.inj h).1.symm
  notUp := by rintro rfl; exact hc (List.cons.inj h).1.symm
  noSlash := hs

theorem packagePrefix_append {name : Text} (h : .char '/' ∉ name.toList) :
    LeadsDown (packagePrefix ++ name) := by
  have htext : (packagePrefix ++ name).toList
      = .char 'b' :: (("pmnlint-plugin-" : Text).toList ++ name.toList) := by
    rw [Text.toList_append]
    rfl
  refine of_toList htext (by decide) ?_
  rw [Text.toList_append]
  simpa using ⟨by decide, h⟩

end LeadsDown

/-- **The names of a package**: one, or one behind a scope. -/
inductive PackageNames : List Text → Prop
  | alone {name : Text} (h : LeadsDown name) : PackageNames [name]
  | inScope {scope name : Text} (hs : LeadsDown scope) (hn : LeadsDown name) :
      PackageNames [scope, name]

/-- **A specifier that stays inside the project**: that of the package being compiled, of the file
that names it, or the names of a package. -/
inductive Confined : Text → Prop
  | root : Confined packageRoot
  | file : Confined packageFile
  | package {names : List Text} (h : PackageNames names) : Confined (Text.intercalate "/" names)

/-! ## Plugins are asked for by confined specifiers -/

namespace Naming

theorem Addressed.legible {p : PluginRef} (h : Addressed p) : Legible p := by
  cases h with
  | rule h =>
    obtain ⟨text, -, hnames⟩ := rule_eq_ok h
    obtain ⟨owner, howner, hplugin⟩ := hnames.owner
    exact hplugin ▸ howner.legible
  | config h =>
    obtain ⟨owner, howner, hplugin⟩ := owner_of_config h
    exact hplugin ▸ howner.legible

/-- A package is a name behind the prefix, in the scope of the plugin if it has one. -/
theorem Legible.packageNames {p : PluginRef} (h : Legible p) :
    ∃ names, PackageNames names ∧ p.packageName = Text.intercalate "/" names := by
  rw [PluginRef.packageName]
  split
  · exact ⟨[builtinPackage], .alone (.of_toList rfl (by decide) (by decide)), rfl⟩
  have hname : LeadsDown (packagePrefix ++ p.name) := .packagePrefix_append h.name.noSlash
  cases hs : p.scope with
  | none => exact ⟨_, .alone hname, by simp [PluginRef.inScope]⟩
  | some scope =>
    obtain ⟨hhead, hslash⟩ := h.scope scope hs
    obtain ⟨rest, hrest⟩ := List.head?_eq_some_iff.1 hhead
    have hscope : LeadsDown scope := .of_toList hrest (by decide) hslash
    exact ⟨_, .inScope hscope hname, by simp [PluginRef.inScope, hscope.nonempty]⟩

/-- **Whatever a text addresses is asked for by a confined specifier.** -/
theorem Addressed.confined {p : PluginRef} (h : Addressed p) : Confined (Session.specifier p) := by
  rw [Session.specifier]
  split
  · exact .root
  · obtain ⟨names, hnames, hp⟩ := h.legible.packageNames
    exact hp ▸ .package hnames

end Naming

namespace Session

/-- All that was asked for so far is confined. -/
def AsksConfined (session : Session (σ × List Text)) : Prop :=
  ∀ specifier ∈ session.world.2, Confined specifier

theorem keeps_require {specifier : Text} (h : Confined specifier) :
    Keeps AsksConfined (require loader.noted specifier) := by
  intro session hsession
  rw [runIn_require]
  exact List.forall_mem_append.2 ⟨hsession, List.forall_mem_singleton.2 h⟩

theorem keeps_manifest {plugin : PluginRef} (h : Naming.Addressed plugin) :
    Keeps AsksConfined (manifest loader.noted plugin) := by
  refine Keeps.bind Keeps.get fun session => ?_
  split
  · exact Keeps.pure _
  · refine Keeps.bind (keeps_require h.confined) fun exported => ?_
    exact Keeps.bind (Keeps.modify fun _ hsession => hsession) fun _ => Keeps.pure _

theorem keeps_packageName (plugin : PluginRef) :
    Keeps AsksConfined (packageName loader.noted plugin) := by
  refine Keeps.ite (Keeps.bind Keeps.get fun session => ?_) (Keeps.pure _)
  split
  · exact Keeps.pure _
  · refine Keeps.bind (keeps_require .file) fun exported => ?_
    refine Keeps.bind (Keeps.ofExcept _) fun name => ?_
    exact Keeps.bind (Keeps.modify fun _ hsession => hsession) fun _ => Keeps.pure _

end Session

open Session (AsksConfined keeps_manifest keeps_packageName)

namespace Operation

theorem keeps_asksConfined {op : Operation} (h : op.IsWritten) :
    Keeps AsksConfined (op.run loader.noted) :=
  keeps_of_isWritten keeps_manifest (fun _ => keeps_packageName _) h

/-- **What a loader is asked for when operations are run**, in order. -/
def requests (loader : Loader σ) (ops : List Operation) (session : Session σ) : List Text :=
  (after loader.noted ops (session.noted [])).world.2

end Operation

namespace Bundle

theorem keeps_ofConfig (config : Value) :
    Keeps AsksConfined (ofConfig loader.noted config) := by
  rw [ofConfig]
  split
  · rename_i document _
    have heffective : (Operation.effectiveRules document).IsWritten := trivial
    have hbundle : ∀ rules, (Operation.bundle rules).IsWritten := fun _ => trivial
    exact Keeps.bind (Operation.keeps_asksConfined heffective) fun rules =>
      Operation.keeps_asksConfined (hbundle rules)
  · exact Keeps.throw _

/-- **What a loader is asked for when a configuration is bundled**, in order. -/
def configRequests (loader : Loader σ) (config : Value) (session : Session σ) : List Text :=
  ((ofConfig loader.noted config).runIn (session.noted [])).2.world.2

end Bundle

/-! ## Confined specifiers lead to paths in the project -/

namespace Path

/-- A path with names behind it. -/
def below (p : Path) (names : List Text) : Path := ⟨p.start, p.parts ++ names⟩

@[simp] theorem below_append (p : Path) (names more : List Text) :
    (p.below names).below more = p.below (names ++ more) := by
  simp only [below, List.append_assoc]

theorem child_eq_below {name : Text} {names : List Text}
    (h : ofText name = ⟨.working, names⟩) (p : Path) : p.child name = p.below names := by
  rw [child, h, append]
  rfl

theorem ofPoints_eq_working {cs : List Point} (h : cs.head? ≠ some (.char '/')) :
    PathStart.ofPoints cs = .working := by
  cases cs with
  | nil => rfl
  | cons c cs =>
    have hc : c ≠ .char '/' := by simpa using h
    unfold PathStart.ofPoints
    split <;> simp_all

end Path

theorem LeadsDown.toList_ne_nil {name : Text} (h : LeadsDown name) : name.toList ≠ [] :=
  fun hnil => h.nonempty (Text.ext hnil)

theorem LeadsDown.toList_ne_dot {name : Text} (h : LeadsDown name) : name.toList ≠ [.char '.'] :=
  fun hdot => h.notHere (Text.ext hdot)

namespace PackageNames

variable {names : List Text}

theorem leadsDown (h : PackageNames names) : ∀ name ∈ names, LeadsDown name := by
  cases h with
  | alone h => exact List.forall_mem_singleton.2 h
  | inScope hs hn => exact List.forall_mem_cons.2 ⟨hs, List.forall_mem_singleton.2 hn⟩

/-- The text of a package begins with a name. -/
theorem head?_ne (h : PackageNames names) :
    (Text.intercalate "/" names).toList.head? ≠ some (.char '/') := by
  have begins : ∀ {name : Text}, LeadsDown name → ∀ rest,
      (name.toList ++ rest).head? ≠ some (.char '/') := by
    intro name h rest hhead
    rw [List.head?_append_of_ne_nil _ h.toList_ne_nil] at hhead
    exact h.noSlash (List.mem_of_head? hhead)
  cases h with
  | alone h => simpa using begins h []
  | @inScope scope name hs hn =>
    rw [Text.intercalate_cons_cons, Text.append_assoc, Text.toList_append]
    exact begins hs _

/-- The names of a package are what is between its slashes. -/
theorem split_intercalate (h : PackageNames names) :
    Text.split (.char '/') (Text.intercalate "/" names).toList = names.map Text.toList := by
  cases h with
  | alone h => simpa using Text.split_of_notMem h.noSlash
  | @inScope scope name hs hn =>
    have htext : (Text.intercalate "/" [scope, name]).toList =
        scope.toList ++ .char '/' :: name.toList := by
      simp
    rw [htext, Text.split_append_cons hs.noSlash, Text.split_of_notMem hn.noSlash]
    rfl

/-- **The path of a package is its names.** -/
theorem ofText_intercalate (h : PackageNames names) :
    Path.ofText (Text.intercalate "/" names) = ⟨.working, names⟩ := by
  have hparts : (names.map Text.toList).filter (fun part => part ≠ [] && part ≠ [.char '.'])
      = names.map Text.toList := by
    refine List.filter_eq_self.2 fun part hpart => ?_
    obtain ⟨name, hname, rfl⟩ := List.mem_map.1 hpart
    have hdown := h.leadsDown name hname
    simp [hdown.toList_ne_nil, hdown.toList_ne_dot]
  rw [Path.ofText, Path.ofPoints_eq_working h.head?_ne, h.split_intercalate, hparts, List.map_map]
  exact congrArg (Path.mk .working) (List.map_id names)

end PackageNames

theorem Confined.head?_ne {specifier : Text} (h : Confined specifier) :
    specifier.toList.head? ≠ some (.char '/') := by
  cases h with
  | root => decide
  | file => decide
  | package h => exact h.head?_ne

/-- **A place in a project where a module may stand**: its root, the file that names it, or the
place of an installed package. -/
inductive ModulePlace : List Text → Prop
  | root : ModulePlace []
  | file : ModulePlace ["package.json"]
  | package {names : List Text} (h : PackageNames names) :
      ModulePlace (packagesDirectory :: names)

/-- **A path in a project**: that of a module's place, or of a manifest right there. -/
def InProject (root p : Path) : Prop :=
  ∃ place, ModulePlace place ∧
    (p = root.below place ∨ ∃ file ∈ manifestFiles, p = root.below (place ++ [file]))

namespace Files

/-- What does not begin with a dot and a slash is looked for among the packages. -/
theorem moduleTarget_of_notMem {specifier : Text}
    (h : [.char '.'] ∉ Text.split (.char '/') specifier.toList) (root : Path) :
    moduleTarget root specifier = (root.child packagesDirectory).child specifier := by
  rw [moduleTarget, if_neg]
  intro hlead
  rw [Bool.or_eq_true, decide_eq_true_eq] at hlead
  rcases hlead with rfl | hlead
  · exact h (by decide)
  · obtain ⟨rest, hrest⟩ := List.isPrefixOf_iff_prefix.1 hlead
    have hslash : Point.char '/' ∉ [Point.char '.'] := by decide
    have hsplit : Text.split (.char '/') ([.char '.', .char '/'] ++ rest)
        = [.char '.'] :: Text.split (.char '/') rest := Text.split_append_cons hslash rest
    rw [← hrest, hsplit] at h
    exact h (List.mem_cons_self ..)

theorem moduleTarget_of_confined {specifier : Text} (h : Confined specifier) (root : Path) :
    ∃ place, ModulePlace place ∧ moduleTarget root specifier = root.below place := by
  cases h with
  | root =>
    have hpath : Path.ofText packageRoot = ⟨.working, []⟩ := by decide
    exact ⟨_, .root, Path.child_eq_below hpath root⟩
  | file =>
    have hpath : Path.ofText packageFile = ⟨.working, ["package.json"]⟩ := by decide
    exact ⟨_, .file, Path.child_eq_below hpath root⟩
  | @package names h =>
    have hdot : [.char '.'] ∉ Text.split (.char '/') (Text.intercalate "/" names).toList := by
      rw [h.split_intercalate]
      intro hmem
      obtain ⟨name, hname, hdot⟩ := List.mem_map.1 hmem
      exact (h.leadsDown name hname).toList_ne_dot hdot
    have hpackages : root.child packagesDirectory = root.below [packagesDirectory] :=
      Path.child_eq_below (by decide) root
    refine ⟨_, .package h, ?_⟩
    rw [moduleTarget_of_notMem hdot, hpackages, Path.child_eq_below h.ofText_intercalate,
      Path.below_append]
    rfl

/-- The paths that are looked at for a specifier. -/
def inspected (root : Path) (specifier : Text) : List Path :=
  moduleTarget root specifier :: manifestFiles.map (moduleTarget root specifier).child

theorem inProject_of_mem_inspected {root p : Path} {specifier : Text} (h : Confined specifier)
    (hp : p ∈ inspected root specifier) : InProject root p := by
  obtain ⟨place, hplace, htarget⟩ := moduleTarget_of_confined h root
  rw [inspected, htarget] at hp
  refine ⟨place, hplace, ?_⟩
  rcases List.mem_cons.1 hp with rfl | hp
  · exact .inl rfl
  · obtain ⟨file, hfile, rfl⟩ := List.mem_map.1 hp
    have hpath : ∀ file ∈ manifestFiles, Path.ofText file = ⟨.working, [file]⟩ := by decide
    exact .inr ⟨file, hfile, by rw [Path.child_eq_below (hpath file hfile), Path.below_append]⟩

/-! ## An answer depends on the paths that are looked at -/

section Congruence

variable {files files' : Files}

theorem isDirectory_congr {p : Path} (h : files.find p = files'.find p) :
    files.isDirectory p = files'.isDirectory p := by
  rw [isDirectory, isDirectory, look, look, h]

theorem isFile_congr {p : Path} (h : files.find p = files'.find p) :
    files.isFile p = files'.isFile p := by
  rw [isFile, isFile, look, look, h]

theorem readValue_congr {p : Path} (h : files.find p = files'.find p) :
    files.readValue p = files'.readValue p := by
  rw [readValue, readValue, readText, readText, content, content, h]

theorem firstFile_congr {paths : List Path} (h : ∀ p ∈ paths, files.find p = files'.find p) :
    files.firstFile paths = files'.firstFile paths := by
  induction paths with
  | nil => rfl
  | cons p paths ih =>
    obtain ⟨hp, hpaths⟩ := List.forall_mem_cons.1 h
    rw [firstFile, firstFile, isFile_congr hp, ih hpaths]

/-- The file that is found is one of those looked for. -/
theorem mem_of_firstFile {paths : List Path} {p : Path}
    (h : files.firstFile paths = .ok (some p)) : p ∈ paths := by
  induction paths with
  | nil => cases h
  | cons q paths ih =>
    rw [firstFile] at h
    cases hq : (files.isFile q).mapError Fault.access with
    | error fault =>
      rw [hq] at h
      cases h
    | ok found =>
      rw [hq] at h
      cases found with
      | true =>
        obtain rfl := Option.some.inj (Except.ok.inj h)
        exact List.mem_cons_self ..
      | false => exact List.mem_cons_of_mem _ (ih h)

theorem readManifest_congr {directory : Path} (specifier : Text)
    (h : ∀ p ∈ manifestFiles.map directory.child, files.find p = files'.find p) :
    files.readManifest directory specifier = files'.readManifest directory specifier := by
  rw [readManifest, readManifest, ← firstFile_congr h]
  rcases hfirst : files.firstFile (manifestFiles.map directory.child) with fault | _ | p
  · rfl
  · rfl
  · exact readValue_congr (h p (mem_of_firstFile hfirst))

/-- **The export of a specifier depends on the paths that are looked at for it.** -/
theorem readModule_congr {root : Path} {specifier : Text}
    (h : ∀ p ∈ inspected root specifier, files.find p = files'.find p) :
    files.readModule root specifier = files'.readModule root specifier := by
  obtain ⟨htarget, hmanifests⟩ := List.forall_mem_cons.1 h
  rw [readModule, readModule, isDirectory_congr htarget, isFile_congr htarget,
    readManifest_congr specifier hmanifests, readValue_congr htarget]

end Congruence

end Files

/-- **Plugins are looked for inside the project.**  Whatever is run on what texts address, and
whatever configuration is bundled, whoever wrote the texts and whatever was loaded on the way: all
that a loader is asked for is confined.  A confined specifier does not begin at the root of all
files, the paths that a project directory looks at for it lie in the project, and its answer depends
on nothing else. -/
theorem requests_confined (loader : Loader σ) (session : Session σ) :
    (∀ ops : List Operation, (∀ op ∈ ops, op.IsWritten) →
      ∀ specifier ∈ Operation.requests loader ops session, Confined specifier) ∧
    (∀ config, ∀ specifier ∈ Bundle.configRequests loader config session, Confined specifier) ∧
    ∀ specifier, Confined specifier →
      specifier.toList.head? ≠ some (.char '/') ∧
      ∀ root, (∀ p ∈ Files.inspected root specifier, InProject root p) ∧
        ∀ files files' : Files,
          (∀ p ∈ Files.inspected root specifier, files.find p = files'.find p) →
          files.readModule root specifier = files'.readModule root specifier := by
  have begun : AsksConfined (session.noted []) := fun _ h => absurd h List.not_mem_nil
  refine ⟨fun ops hops => ?_, fun config => Bundle.keeps_ofConfig config _ begun, ?_⟩
  · refine Operation.keeps_after_of_forall (fun op hop => ?_) begun
    exact Operation.keeps_asksConfined (hops op hop)
  · intro specifier h
    refine ⟨h.head?_ne, fun root => ⟨fun p => Files.inProject_of_mem_inspected h, ?_⟩⟩
    exact fun files files' => Files.readModule_congr

/-- Texts that look like ways out: double dots and a slash in scopes and names. -/
def waysOut : List Operation :=
  [.ruleTarget (.str "@../../x"), .inheritedRules (.str "plugin:../c"),
    .ruleTarget (.str "/etc/x"), .ruleTarget (.str "local/../../x"),
    .manifest ⟨"..", some "@.."⟩]

/-- They address packages below the directory of packages, or nothing. -/
theorem requests_confined_waysOut :
    (∀ op ∈ waysOut, op.IsWritten) ∧
      Operation.requests .modules waysOut (Session.start ⟨[], []⟩)
        = (["@../bpmnlint-plugin-..", "bpmnlint-plugin-..", "./package.json",
            "@../bpmnlint-plugin-.."] : List Text) ∧
      Confined "@../bpmnlint-plugin-.." ∧
      ∀ p ∈ Files.inspected ⟨.root, ["home"]⟩ "@../bpmnlint-plugin-..",
        InProject ⟨.root, ["home"]⟩ p := by
  have hop : ∀ op ∈ waysOut, op.IsWritten := by
    have hrule : Naming.rule (.str "@../../x") = .ok ⟨⟨"..", some "@.."⟩, "x"⟩ := rfl
    have haddressed : Naming.Addressed ⟨"..", some "@.."⟩ := .rule hrule
    simp [waysOut, Operation.IsWritten, haddressed]
  obtain ⟨hrequests, -, hpaths⟩ :=
    requests_confined Loader.modules (Session.start ⟨[], []⟩)
  have hasked : Operation.requests .modules waysOut (Session.start ⟨[], []⟩)
      = (["@../bpmnlint-plugin-..", "bpmnlint-plugin-..", "./package.json",
          "@../bpmnlint-plugin-.."] : List Text) := by
    decide +kernel
  have hconfined : Confined "@../bpmnlint-plugin-.." :=
    hrequests waysOut hop _ (by rw [hasked]; exact List.mem_cons_self ..)
  exact ⟨hop, hasked, hconfined, ((hpaths _ hconfined).2 _).1⟩

end LintBundle
