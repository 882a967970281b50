import LintBundle.Files.Tree
import LintBundle.Proofs.Chaining

/-!
# Proofs/Storing — what a new directory and a new file change

    path ──slot──▸ a name in a directory that is there ──put──▸ one place changed

Directories stay and may only gain entries (`Tree.Grown`), so paths that lead somewhere still lead
there.  Putting something without entries where no directory is changes this one place
(`Tree.placed_put`); so making directories changes no file (`Files.sameContents_makeDirectories`),
and writing a file changes the one at its path alone (`Files.stored_of_write`).
-/

namespace LintBundle

namespace Tree

variable {t t' new : Tree} {place : List FileName} {name : FileName}
    {entries : List (FileName × Tree)}

/-! ## Places -/

/-- A place is reached by way of the places before it. -/
theorem at?_append (t : Tree) (place rest : List FileName) :
    t.at? (place ++ rest) = (t.at? place).bind fun inner => inner.at? rest := by
  induction place generalizing t with
  | nil => rfl
  | cons name place ih =>
    simp only [List.cons_append, at?]
    cases t.entry? name with
    | none => rfl
    | some inner => exact ih inner

/-- A name is in a directory if something stands at it. -/
theorem any_eq_isSome (entries : List (FileName × Tree)) (name : FileName) :
    (entries.any fun (n, _) => n = name) = (Tree.entry? name (.directory entries)).isSome := by
  simp [Tree.entry?, Option.isSome_map, List.isSome_find?, List.any_eq]

/-- The bytes of the file at a place. -/
def fileAt (t : Tree) (place : List FileName) : Option ByteArray :=
  match t.at? place with
  | some (.file content) => some content
  | _ => none

theorem fileAt_of_directory (h : t.at? place = some (.directory entries)) :
    t.fileAt place = none := by
  rw [fileAt, h]

/-- A place below something is reached through a directory. -/
theorem exists_entry (h : t.at? (name :: place) = some t') : ∃ entries inner,
    t = .directory entries ∧ t.entry? name = some inner ∧ inner.at? place = some t' := by
  obtain ⟨inner, hinner, hrest⟩ := Option.bind_eq_some_iff.1 h
  cases t with
  | file content => cases hinner
  | directory entries => exact ⟨entries, inner, rfl, hinner, hrest⟩

/-! ## Putting something at a place -/

/-- The entry of a name that takes the place of the one with this name. -/
theorem entry?_replace (entries : List (FileName × Tree)) (inner : Tree) (name other : FileName) :
    Tree.entry? other
        (.directory (entries.map fun (n, t) => if n = name then (n, inner) else (n, t))) =
      if other = name then (Tree.entry? name (.directory entries)).map fun _ => inner
      else Tree.entry? other (.directory entries) := by
  have hsame : ((fun e : FileName × Tree => decide (e.1 = other)) ∘
      fun e => if e.1 = name then (e.1, inner) else e) = fun e => decide (e.1 = other) := by
    funext e
    by_cases h : e.1 = name <;> simp [h]
  simp only [Tree.entry?, List.find?_map, hsame, Option.map_map]
  by_cases hother : other = name
  · subst hother
    rw [if_pos rfl]
    cases hfind : entries.find? fun e => decide (e.1 = other) with
    | none => rfl
    | some e =>
      have hname := List.find?_some hfind
      simp_all
  · rw [if_neg hother]
    cases hfind : entries.find? fun e => decide (e.1 = other) with
    | none => rfl
    | some e =>
      have hname := List.find?_some hfind
      simp_all

/-- Entries that are as before, but for the one of a name. -/
structure Sets (entries entries' : List (FileName × Tree)) (name : FileName)
    (inner : Tree) : Prop where
  self : Tree.entry? name (.directory entries') = some inner
  others : ∀ other, other ≠ name →
    Tree.entry? other (.directory entries') = Tree.entry? other (.directory entries)

/-- The names are kept. -/
theorem Sets.names {entries' : List (FileName × Tree)} {name : FileName} {inner : Tree}
    (h : Sets entries entries' name inner) (n : FileName)
    (hn : (Tree.entry? n (.directory entries)).isSome) :
    (Tree.entry? n (.directory entries')).isSome := by
  by_cases hname : n = name
  · rw [hname, h.self]
    rfl
  · rwa [h.others n hname]

/-- **Putting something into a directory** sets the entry of one name. -/
theorem put_cons (entries : List (FileName × Tree)) (name : FileName) (rest : List FileName)
    (new : Tree) :
    ∃ entries', (directory entries).put (name :: rest) new = directory entries' ∧
      Sets entries entries' name
        (((Tree.entry? name (.directory entries)).getD empty).put rest new) := by
  generalize hinner : ((Tree.entry? name (.directory entries)).getD empty).put rest new = inner
  cases hany : entries.any fun (n, _) => n = name with
  | true =>
    refine ⟨entries.map fun (n, t) => if n = name then (n, inner) else (n, t),
      by simp only [put, hany, if_true, hinner], ?_, fun other hother => ?_⟩
    · rw [any_eq_isSome] at hany
      obtain ⟨old, hold⟩ := Option.isSome_iff_exists.1 hany
      rw [entry?_replace, if_pos rfl, hold]
      rfl
    · rw [entry?_replace, if_neg hother]
  | false =>
    refine ⟨entries ++ [(name, inner)],
      by simp only [put, hany, Bool.false_eq_true, if_false, hinner], ?_, fun other hother => ?_⟩
    · have hnone : (entries.find? fun e => decide (e.1 = name)) = none := by
        rw [List.find?_eq_none]
        simpa [List.any_eq_false] using hany
      simp [Tree.entry?, List.find?_append, hnone]
    · simp [Tree.entry?, List.find?_append, Ne.symm hother]

/-- What is put somewhere stands there. -/
theorem at?_put (hplace : t.at? place = some (.directory entries)) (name : FileName)
    (rest : List FileName) (new : Tree) :
    (t.put (place ++ [name]) new).at? (place ++ name :: rest) = new.at? rest := by
  induction place generalizing t with
  | nil =>
    obtain rfl := Option.some.inj hplace
    obtain ⟨entries', hput, hsets⟩ := put_cons entries name [] new
    rw [List.nil_append, List.nil_append, hput, at?, hsets.self]
    rfl
  | cons first place ih =>
    obtain ⟨es, inner, rfl, hentry, hinner⟩ := exists_entry hplace
    obtain ⟨entries', hput, hsets⟩ := put_cons es first (place ++ [name]) new
    rw [List.cons_append, List.cons_append, hput, at?, hsets.self, hentry]
    exact ih hinner

/-- Elsewhere all stays as it is, but for the directories in which the place lies. -/
theorem at?_put_elsewhere (hplace : t.at? place = some (.directory entries)) (name : FileName)
    (new : Tree) {other : List FileName} (hother : ¬ place ++ [name] <+: other) :
    (t.put (place ++ [name]) new).at? other = t.at? other ∨ ∃ es es',
      t.at? other = some (.directory es) ∧
      (t.put (place ++ [name]) new).at? other = some (.directory es') ∧
      ∀ n, (Tree.entry? n (.directory es)).isSome → (Tree.entry? n (.directory es')).isSome := by
  induction place generalizing t other with
  | nil =>
    obtain rfl := Option.some.inj hplace
    obtain ⟨entries', hput, hsets⟩ := put_cons entries name [] new
    rw [List.nil_append, hput]
    cases other with
    | nil => exact .inr ⟨entries, entries', rfl, rfl, hsets.names⟩
    | cons n rest =>
      have hn : n ≠ name := by
        rintro rfl
        exact hother ⟨rest, rfl⟩
      exact .inl (by rw [at?, at?, hsets.others n hn])
  | cons first place ih =>
    obtain ⟨es, inner, rfl, hentry, hinner⟩ := exists_entry hplace
    obtain ⟨entries', hput, hsets⟩ := put_cons es first (place ++ [name]) new
    rw [List.cons_append, hput]
    cases other with
    | nil => exact .inr ⟨es, entries', rfl, rfl, hsets.names⟩
    | cons n rest =>
      by_cases h : n = first
      · subst h
        rw [at?, at?, hsets.self, hentry]
        refine ih hinner fun hrest => hother ?_
        exact List.cons_prefix_cons.2 ⟨rfl, hrest⟩
      · exact .inl (by rw [at?, at?, hsets.others n h])

/-! ## One place changed -/

/-- **A tree that has grown**: its directories are still there, with the names they had. -/
def Grown (t t' : Tree) : Prop :=
  ∀ place es, t.at? place = some (.directory es) → ∃ es', t'.at? place = some (.directory es') ∧
    ∀ n, (Tree.entry? n (.directory es)).isSome → (Tree.entry? n (.directory es')).isSome

/-- **A tree with something new at a place**, and the same files elsewhere. -/
structure Placed (t t' : Tree) (place : List FileName) (new : Tree) : Prop where
  there : t'.at? place = some new
  grown : Grown t t'
  elsewhere : ∀ other, other ≠ place → t'.fileAt other = t.fileAt other

/-- Below something without entries there is nothing. -/
theorem at?_of_no_entries (h : ∀ n, t.entry? n = none) {rest : List FileName} (hrest : rest ≠ []) :
    t.at? rest = none := by
  cases rest with
  | nil => exact absurd rfl hrest
  | cons n rest => rw [at?, h n]; rfl

/-- Below a place where no directory is there is nothing. -/
theorem at?_below (hfree : ∀ es, t.at? place ≠ some (.directory es)) {rest : List FileName}
    (hrest : rest ≠ []) : t.at? (place ++ rest) = none := by
  rw [at?_append]
  cases hold : t.at? place with
  | none => rfl
  | some old =>
    cases old with
    | file content => exact at?_of_no_entries (fun _ => rfl) hrest
    | directory es => exact absurd hold (hfree es)

/-- Where no directory is replaced, the tree has grown. -/
theorem grown_put (name : FileName) (new : Tree) (hplace : t.at? place = some (.directory entries))
    (hfree : ∀ es, t.at? (place ++ [name]) ≠ some (.directory es)) :
    Grown t (t.put (place ++ [name]) new) := by
  intro other es hes
  by_cases hother : place ++ [name] <+: other
  · obtain ⟨rest, rfl⟩ := hother
    by_cases hrest : rest = []
    · rw [hrest, List.append_nil] at hes
      exact absurd hes (hfree es)
    · cases (at?_below hfree hrest).symm.trans hes
  · rcases at?_put_elsewhere hplace name new hother with h | ⟨es₀, es', h, h', hnames⟩
    · exact ⟨es, h.trans hes, fun _ => id⟩
    · cases h.symm.trans hes
      exact ⟨es', h', hnames⟩

/-- **Putting something without entries in a directory, where no directory is**, changes one
place. -/
theorem placed_put (name : FileName) (new : Tree) (hplace : t.at? place = some (.directory entries))
    (hfree : ∀ es, t.at? (place ++ [name]) ≠ some (.directory es))
    (hnew : ∀ n, new.entry? n = none) :
    Placed t (t.put (place ++ [name]) new) (place ++ [name]) new where
  there := at?_put hplace name [] new
  grown := grown_put name new hplace hfree
  elsewhere other hne := by
    by_cases hother : place ++ [name] <+: other
    · obtain ⟨rest, rfl⟩ := hother
      have hrest : rest ≠ [] := by
        rintro rfl
        exact hne (List.append_nil _)
      have hput : (t.put (place ++ [name]) new).at? (place ++ [name] ++ rest) = new.at? rest := by
        rw [List.append_assoc]
        exact at?_put hplace name rest new
      rw [fileAt, fileAt, hput, at?_below hfree hrest, at?_of_no_entries hnew hrest]
    · rcases at?_put_elsewhere hplace name new hother with h | ⟨es, es', h, h', -⟩
      · rw [fileAt, fileAt, h]
      · rw [fileAt_of_directory h, fileAt_of_directory h']

end Tree

/-! ## Paths -/

namespace Files

variable {files files' files'' : Files} {p : Path}

open LintBundle.Tree (Grown Placed)

/-- A path is followed part by part. -/
theorem follow_append (root : Tree) (place : List FileName) (parts rest : List Text) :
    follow root place (parts ++ rest) =
      (do follow root (← follow root place parts) rest) := by
  induction parts generalizing place with
  | nil => rfl
  | cons part parts ih =>
    rw [List.cons_append, follow, follow]
    split
    · split
      · exact ih _
      split
      · rfl
      split
      · exact ih _
      · rfl
    · rfl

/-- **What leads somewhere still leads there** when a tree has grown. -/
theorem follow_of_grown {root root' : Tree} (h : Grown root root') {place dest : List FileName}
    {parts : List Text} (hf : follow root place parts = .ok dest) :
    follow root' place parts = .ok dest := by
  induction parts generalizing place with
  | nil => exact hf
  | cons part parts ih =>
    rw [follow] at hf ⊢
    cases hat : root.at? place with
    | none => rw [hat] at hf; cases hf
    | some old =>
      cases old with
      | file content => rw [hat] at hf; cases hf
      | directory es =>
        obtain ⟨es', hat', hnames⟩ := h place es hat
        rw [hat] at hf
        rw [hat']
        simp only [Tree.any_eq_isSome] at hf ⊢
        split at hf
        · rw [if_pos ‹_›]
          exact ih hf
        split at hf
        · cases hf
        split at hf
        · rw [if_neg ‹_›, if_neg ‹_›, if_pos (hnames _ ‹_›)]
          exact ih hf
        · cases hf

/-- **A slot**: a name that can stand in a directory that is there. -/
structure IsSlot (files : Files) (p : Path) (dir : List FileName) : Prop where
  fault : p.fault? = none
  located : files.locate p.parent = .ok dir
  directory : ∃ es, files.root.at? dir = some (.directory es)
  named : p.name ≠ ""
  inside : p.name ≠ ".."
  short : ¬ nameLimit < p.name.fileBytes.length

theorem slot_eq_ok {place : List FileName} (h : files.slot p = .ok (some place)) :
    ∃ dir, files.IsSlot p dir ∧ place = dir ++ [p.name.fileBytes] := by
  rw [slot] at h
  cases hfault : p.fault? with
  | some cause => rw [hfault] at h; cases h
  | none =>
    rw [hfault] at h
    obtain ⟨dir, hlocate, h⟩ := bind_eq_ok_iff.1 h
    split at h
    · rename_i es hat
      by_cases hname : p.name = "" ∨ p.name = ".."
      · rcases hname with hname | hname <;> simp [hname] at h
      · obtain ⟨hempty, hdots⟩ := not_or.1 hname
        by_cases hlong : nameLimit < p.name.fileBytes.length
        · simp [hempty, hdots, hlong] at h
        · refine ⟨dir, ⟨hfault, hlocate, ⟨es, hat⟩, hempty, hdots, hlong⟩, ?_⟩
          simpa [hempty, hdots, hlong, eq_comm] using h
    · cases h

/-! ## Making directories -/

/-- **Files that have the same contents**, whatever directories there are. -/
structure SameContents (files files' : Files) : Prop where
  working : files'.working = files.working
  contents : ∀ place, files'.root.fileAt place = files.root.fileAt place

theorem SameContents.refl (files : Files) : SameContents files files := ⟨rfl, fun _ => rfl⟩

theorem SameContents.trans (h : SameContents files files') (h' : SameContents files' files'') :
    SameContents files files'' where
  working := h'.working.trans h.working
  contents place := (h'.contents place).trans (h.contents place)

/-- A new directory changes no file. -/
theorem sameContents_of_makeDirectory (h : files.makeDirectory p = .ok files') :
    SameContents files files' := by
  rw [makeDirectory] at h
  obtain ⟨_ | place, hslot, h⟩ := bind_eq_ok_iff.1 h
  · cases h
  · obtain ⟨dir, ⟨-, -, ⟨es, hdir⟩, -, -, -⟩, rfl⟩ := slot_eq_ok hslot
    dsimp only at h
    split at h
    · cases h
    · rename_i hnone
      obtain rfl := Except.ok.inj h
      have hnone : files.root.at? (dir ++ [p.name.fileBytes]) = none := by simpa using hnone
      have placed := Tree.placed_put p.name.fileBytes .empty hdir (by simp [hnone]) fun _ => rfl
      refine ⟨rfl, fun other => ?_⟩
      by_cases hother : other = dir ++ [p.name.fileBytes]
      · rw [hother, Tree.fileAt_of_directory placed.there, Tree.fileAt, hnone]
      · exact placed.elsewhere other hother

/-- **Making a directory and those it lies in changes no file**, whether it succeeds or not. -/
theorem sameContents_makeMissing (p : Path) (room : Nat) (files : Files) :
    SameContents files (makeMissing p room files).1 := by
  induction room generalizing p files with
  | zero =>
    rw [makeMissing]
    split
    · rename_i files' hmake
      exact sameContents_of_makeDirectory hmake
    · exact .refl files
    · exact .refl files
  | succ room ih =>
    rw [makeMissing]
    split
    · rename_i files' hmake
      exact sameContents_of_makeDirectory hmake
    · have hparent := ih p.parent files
      split
      · rename_i files' cause hmade
        rwa [hmade] at hparent
      · rename_i files' hmade
        rw [hmade] at hparent
        split
        · rename_i files'' hmake
          exact hparent.trans (sameContents_of_makeDirectory hmake)
        · exact hparent
    · exact .refl files

theorem sameContents_makeDirectories (files : Files) (p : Path) :
    SameContents files (files.makeDirectories p).1 := sameContents_makeMissing p _ files

/-! ## Writing a file -/

/-- **Files with a content stored at a path**, and nothing else changed in any file. -/
structure Stored (files files' : Files) (p : Path) (content : ByteArray) : Prop where
  working : files'.working = files.working
  reads : files'.content p = .ok content
  elsewhere : ∃ place, files'.locate p = .ok place ∧
    ∀ other, other ≠ place → files'.root.fileAt other = files.root.fileAt other

/-- Directories made before do not matter. -/
theorem Stored.of_sameContents {content : ByteArray} (h : SameContents files files')
    (h' : Stored files' files'' p content) : Stored files files'' p content where
  working := h'.working.trans h.working
  reads := h'.reads
  elsewhere := by
    obtain ⟨place, hlocate, hothers⟩ := h'.elsewhere
    exact ⟨place, hlocate, fun other hother => (hothers other hother).trans (h.contents other)⟩

/-- A path that ends in a name goes through its parent. -/
theorem parts_eq (h : p.name ≠ "") : p.parts = p.parent.parts ++ [p.name] := by
  rcases List.eq_nil_or_concat p.parts with hnil | ⟨parts, name, hparts⟩
  · rw [Path.name, hnil] at h
    exact absurd rfl h
  · rw [Path.parent, Path.name, hparts]
    simp

/-- **A path to a slot leads to what is put there**: its parent is still there, and the name is in
it now. -/
theorem IsSlot.locate_placed {dir : List FileName} (h : files.IsSlot p dir) {root : Tree}
    {new : Tree}
    (placed : Placed files.root root (dir ++ [p.name.fileBytes]) new) :
    locate { files with root := root } p = .ok (dir ++ [p.name.fileBytes]) := by
  obtain ⟨es, hdir⟩ := h.directory
  obtain ⟨es', hdir', -⟩ := placed.grown dir es hdir
  have hparent : follow root (files.startOf p) p.parent.parts
      = .ok dir := by
    have hlocated := h.located
    rw [locate] at hlocated
    cases hfault : p.parent.fault? with
    | some cause => rw [hfault] at hlocated; cases hlocated
    | none =>
      rw [hfault] at hlocated
      exact follow_of_grown placed.grown hlocated
  have hthere : (Tree.entry? p.name.fileBytes (.directory es')).isSome = true := by
    have hat := placed.there
    rw [Tree.at?_append, hdir'] at hat
    obtain ⟨inner, hinner, -⟩ := Option.bind_eq_some_iff.1 (Option.bind_some .. ▸ hat)
    exact Option.isSome_iff_exists.2 ⟨inner, hinner⟩
  have hstart : startOf { files with root := root } p = files.startOf p := rfl
  rw [locate, h.fault]
  simp only [hstart, parts_eq h.named, follow_append, hparent, bind, Except.bind, follow, hdir',
    h.inside,
    h.short, Tree.any_eq_isSome, hthere, if_true, if_false]

/-- **Writing a file stores its content at the path, and changes no other file.** -/
theorem stored_of_write {content : ByteArray} (h : files.write p content = .ok files') :
    Stored files files' p content := by
  rw [write] at h
  obtain ⟨_ | place, hslot, h⟩ := bind_eq_ok_iff.1 h
  · cases h
  · obtain ⟨dir, hin, rfl⟩ := slot_eq_ok hslot
    obtain ⟨es, hdir⟩ := hin.directory
    dsimp only at h
    split at h
    · cases h
    · rename_i hfree
      obtain rfl := Except.ok.inj h
      have placed := Tree.placed_put p.name.fileBytes (.file content) hdir hfree fun _ => rfl
      have hplace := hin.locate_placed placed
      refine ⟨rfl, ?_, dir ++ [p.name.fileBytes], hplace, placed.elsewhere⟩
      rw [Files.content, find, hplace]
      simp only [bind, Except.bind, placed.there, Option.elim]

end Files

end LintBundle
