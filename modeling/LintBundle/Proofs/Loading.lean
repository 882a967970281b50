import LintBundle.Proofs.Bundling
import LintBundle.Proofs.Drafting
import LintBundle.Proofs.Lexing
import LintBundle.Proofs.Schema
import LintBundle.Proofs.Searching
import LintBundle.Yaml

/-!
# Proofs/Loading — a text without tags is loaded as JSON data

Every scalar of such a text becomes a node with the tag of its spelling (`Tells`), every node is
read by its tag (`ReadIn`), and the value of the text is made of what its nodes read as
(`Value.MadeOf`).  So a scalar anywhere in the value is what a scalar of the text is loaded as
(`Loads`): a text where it is quoted, and where the standard rules see a timestamp or a truth word
other than `true` and `false`, and what those rules make of it in all other places.

The values of rules are parts of such a value, and those have a JSON form unless a container among
their parts contains itself or a whole number is too long.
-/

namespace LintBundle

namespace Yaml

/-! ## Scalars of a text -/

/-- **What a scalar of a text is loaded as.** -/
def Loads (text : List Point) (isPlain : Bool) (v : Value) : Prop :=
  if isPlain && !isTextOnly (Text.shapes text) then
    Reading (Rule.resolve Rule.standard (Text.shapes text)) text v
  else v = .str (.ofList text)

@[simp] theorem reading_str {text : List Point} {v : Value} :
    Reading .str text v ↔ v = .str (.ofList text) := by
  simp [Reading, Tag.read, eq_comm]

theorem reading_iff_loads {text : List Point} {isPlain : Bool} {v : Value} :
    Reading (if isPlain then Tag.ofSpelling (Text.shapes text) else .str) text v
      ↔ Loads text isPlain v := by
  unfold Loads
  cases isPlain with
  | false => exact reading_str
  | true =>
    rw [if_pos rfl, ofSpelling_eq]
    cases isTextOnly (Text.shapes text) with
    | true => exact reading_str
    | false => rfl

/-- What stands for a scalar of a text, or for an empty place. -/
def Stems (ts : List Token) (v : Value) : Prop :=
  v = .null ∨ ∃ text isPlain, .scalar text isPlain ∈ ts ∧ Loads text isPlain v

theorem mem_scalars {ts : List Token} {node : Node} (h : node ∈ Token.scalars ts) :
    ∃ text isPlain, .scalar text isPlain ∈ ts ∧
      node = ⟨if isPlain then Tag.ofSpelling (Text.shapes text) else .str, .scalar text⟩ := by
  obtain ⟨t, ht, hnode⟩ := List.mem_filterMap.1 (List.mem_filter.1 h).1
  cases t <;> simp only [Token.node?, reduceCtorEq, Option.some.injEq] at hnode
  exact ⟨_, _, ht, hnode.symm⟩

/-- **A node is that of an empty place, of a scalar of the text, or a collection.** -/
theorem Tells.node {ts : List Token} {g : Graph} (h : Tells ts g.nodes.toList) (n : Nat) :
    g.node n = .empty ∨ g.node n ∈ Token.scalars ts ∨
      ((∀ text, g.body n ≠ .scalar text) ∧ (g.node n).HasForm) := by
  by_cases hn : n < g.nodes.size
  · have hmem : g.node n ∈ g.nodes.toList := by
      rw [Graph.node, Array.getD_eq_getD_getElem?, Array.getElem?_eq_getElem hn]
      exact Array.mem_toList_iff.2 (Array.getElem_mem hn)
    cases hbody : g.body n with
    | scalar text =>
      by_cases hempty : g.node n = .empty
      · exact .inl hempty
      · refine .inr (.inl (h.scalars ▸ List.mem_filter.2 ⟨hmem, ?_⟩))
        have hbody' : (g.node n).body = .scalar text := hbody
        simp [Node.isWritten, hbody', hempty]
    | seq items => exact .inr (.inr ⟨by simp, h.form _ hmem⟩)
    | map pairs => exact .inr (.inr ⟨by simp, h.form _ hmem⟩)
  · left
    rw [Graph.node, Array.getD_eq_getD_getElem?, Array.getElem?_eq_none (by omega)]
    rfl

/-- No spelling suggests a container. -/
theorem empty?_ofSpelling (text : List Char) : Datum.empty? (Tag.ofSpelling text) = none := by
  unfold Tag.ofSpelling
  dsimp only
  repeat' split
  all_goals rfl

theorem Tells.plain {ts : List Token} {g : Graph} (h : Tells ts g.nodes.toList) : g.Plain := by
  intro n
  simp only [Graph.body, Graph.tag]
  rcases h.node n with hempty | hmem | ⟨hno, hform⟩
  · rw [hempty]
    exact rfl
  · obtain ⟨text, isPlain, -, hnode⟩ := mem_scalars hmem
    rw [hnode]
    cases isPlain with
    | true => exact empty?_ofSpelling (Text.shapes text)
    | false => exact rfl
  · unfold Node.HasForm at hform
    cases hbody : (g.node n).body with
    | scalar text => exact absurd hbody (hno text)
    | seq items => rwa [hbody] at hform
    | map pairs => rwa [hbody] at hform

/-- A scalar among the nodes is that of an empty place, or one of the text. -/
theorem Tells.scalar {ts : List Token} {g : Graph} (h : Tells ts g.nodes.toList) {n : Nat}
    {text : List Point} (hbody : g.body n = .scalar text) : g.node n = .empty ∨
      ∃ isPlain, .scalar text isPlain ∈ ts ∧
        g.tag n = if isPlain then Tag.ofSpelling (Text.shapes text) else .str := by
  rcases h.node n with hempty | hmem | ⟨hno, -⟩
  · exact .inl hempty
  · obtain ⟨text', isPlain, ht, hnode⟩ := mem_scalars hmem
    rw [Graph.body, hnode] at hbody
    obtain rfl := Body.scalar.inj hbody
    exact .inr ⟨isPlain, ht, by rw [Graph.tag, hnode]⟩
  · exact absurd hbody (hno text)

/-- **What a node reads as stems from the text.** -/
theorem Tells.stems {ts : List Token} {g : Graph} (h : Tells ts g.nodes.toList) {v : Value}
    (hv : ReadIn g v) : Stems ts v := by
  obtain rfl | ⟨n, text, hbody, hread⟩ := hv
  · exact .inl rfl
  rcases h.scalar hbody with hempty | ⟨isPlain, ht, htag⟩
  · rw [Graph.tag, hempty] at hread
    exact .inl (Except.ok.inj hread).symm
  · rw [htag] at hread
    exact .inr ⟨text, isPlain, ht, reading_iff_loads.1 hread⟩

/-! ## Sorts of scalars -/

end Yaml

/-- The scalars of JSON. -/
def Value.IsJsonScalar : Value → Prop
  | null | bool _ | int _ | float _ | str _ => True
  | _ => False

namespace Yaml

/-- The tags that a spelling suggests. -/
theorem ofSpelling_mem (text : List Char) :
    Tag.ofSpelling text ∈ [Tag.bool, .float, .int, .merge, .null, .value, .unknown, .str] := by
  unfold Tag.ofSpelling
  dsimp only
  repeat' split
  all_goals decide

theorem ofSpelling_eq_bool {text : List Char} (h : Tag.ofSpelling text = .bool) :
    Tag.isBool (Tag.beforeBreak text) = true := by
  by_contra hbool
  unfold Tag.ofSpelling at h
  dsimp only at h
  rw [if_neg hbool] at h
  revert h
  repeat' split
  all_goals decide

/-- A truth value is spelled in one of six ways. -/
theorem mem_of_ofSpelling_eq_bool {text : List Char} (hneat : EndsNeatly text)
    (h : Tag.ofSpelling text = .bool) :
    text ∈ ["true", "True", "TRUE", "false", "False", "FALSE"].map String.toList := by
  have hbreak : Tag.beforeBreak text = text := by
    refine if_neg fun hlast => ?_
    have hgap := hneat '\n' hlast
    revert hgap
    decide
  have hword := word_mem (ofSpelling_eq_bool h)
  rwa [hbreak] at hword

theorem readBool_eq_ok {text : List Char} {v : Value} (h : Tag.readBool text = .ok v) :
    ∃ b, v = .bool b := by
  unfold Tag.readBool at h
  dsimp only at h
  repeat' split at h
  · exact ⟨true, (Except.ok.inj h).symm⟩
  · exact ⟨false, (Except.ok.inj h).symm⟩
  · cases h

theorem readInt_eq_ok {text : List Char} {v : Value} (h : Tag.readInt text = .ok v) :
    ∃ n, v = .int n := by
  unfold Tag.readInt at h
  dsimp only at h
  split at h
  · cases h
  · cases hn : Tag.magnitude? (Reading.sign (text.filter (· ≠ '_'))).2 with
    | none => rw [hn] at h; cases h
    | some n => rw [hn] at h; exact ⟨_, (Except.ok.inj h).symm⟩

theorem readFloat_eq_ok {text : List Char} {v : Value} (h : Tag.readFloat text = .ok v) :
    ∃ x, v = .float x := by
  unfold Tag.readFloat at h
  dsimp only at h
  split at h
  · cases h
  -- what is found as a number keeps its sort under the sign
  have hsign : ∀ x : Except TextFault Binary64,
      (do let x ← x; return Value.float (if (Tag.numeral text).1 then x.neg else x)) = .ok v →
        ∃ x, v = .float x := by
    intro x hx
    cases x with
    | error cause => cases hx
    | ok x => exact ⟨_, (Except.ok.inj hx).symm⟩
  split at h
  · exact ⟨_, (Except.ok.inj h).symm⟩
  split at h
  · exact ⟨_, (Except.ok.inj h).symm⟩
  split at h <;> exact hsign _ h

/-- A scalar without a tag is one of JSON. -/
theorem isJsonScalar_of_reading {text : List Point} {v : Value}
    (h : Reading (Tag.ofSpelling (Text.shapes text)) text v) : v.IsJsonScalar := by
  have hmem := ofSpelling_mem (Text.shapes text)
  generalize Tag.ofSpelling (Text.shapes text) = tag at h hmem
  unfold Reading at h
  simp only [List.mem_cons, List.not_mem_nil, or_false] at hmem
  rcases hmem with rfl | rfl | rfl | rfl | rfl | rfl | rfl | rfl
  · obtain ⟨b, rfl⟩ := readBool_eq_ok h
    trivial
  · obtain ⟨x, rfl⟩ := readFloat_eq_ok h
    trivial
  · obtain ⟨n, rfl⟩ := readInt_eq_ok h
    trivial
  · cases h
  · obtain rfl := Except.ok.inj h
    trivial
  · obtain rfl := h
    trivial
  · cases h
  · obtain rfl := Except.ok.inj h
    trivial

/-- The ways to spell a truth value. -/
def truthSpellings (b : Bool) : List String :=
  if b then ["true", "True", "TRUE"] else ["false", "False", "FALSE"]

/-- A truth value is spelled as one. -/
theorem spelled_of_reading {cs : List Char} {b : Bool} (hneat : EndsNeatly cs)
    (h : Reading (Tag.ofSpelling cs) (cs.map .char) (.bool b)) :
    String.ofList cs ∈ truthSpellings b := by
  have htag : Tag.ofSpelling cs = .bool := by
    have hmem := ofSpelling_mem cs
    generalize Tag.ofSpelling cs = tag at h hmem
    unfold Reading at h
    simp only [List.mem_cons, List.not_mem_nil, or_false] at hmem
    rcases hmem with rfl | rfl | rfl | rfl | rfl | rfl | rfl | rfl
    · rfl
    · obtain ⟨x, hx⟩ := readFloat_eq_ok h
      cases hx
    · obtain ⟨n, hn⟩ := readInt_eq_ok h
      cases hn
    all_goals cases h
  have hread : Tag.readBool cs = .ok (.bool b) := by
    rw [htag, Reading, Tag.read, Text.shapes_map_char] at h
    exact h
  have hall : ∀ cs ∈ ["true", "True", "TRUE", "false", "False", "FALSE"].map String.toList,
      ∀ b, (Tag.readBool cs).toOption.any (fun v => v.same (.bool b)) = true →
        String.ofList cs ∈ truthSpellings b := by decide
  refine hall cs (mem_of_ofSpelling_eq_bool hneat htag) b ?_
  rw [hread]
  cases b <;> rfl

/-- **A scalar of a value that is loaded from a text.** -/
structure Loaded (ts : List Token) (v : Value) : Prop where
  isJsonScalar : v.IsJsonScalar
  stems : Stems ts v
  spelled : ∀ b, v = .bool b →
    ∃ word ∈ truthSpellings b, .scalar (word : Text).toList true ∈ ts

theorem Stems.loaded {ts : List Token} {v : Value} (hneat : ∀ t ∈ ts, t.IsNeat)
    (h : Stems ts v) : Loaded ts v := by
  obtain rfl | ⟨text, isPlain, ht, hloads⟩ := id h
  · exact ⟨trivial, h, fun b hb => by cases hb⟩
  have hread := reading_iff_loads.2 hloads
  cases isPlain with
  | false =>
    obtain rfl := reading_str.1 hread
    exact ⟨trivial, h, fun b hb => by cases hb⟩
  | true =>
    refine ⟨isJsonScalar_of_reading hread, h, ?_⟩
    rintro b rfl
    obtain ⟨cs, rfl, hcs⟩ := hneat _ ht
    rw [if_pos rfl, Text.shapes_map_char] at hread
    refine ⟨String.ofList cs, spelled_of_reading hcs hread, ?_⟩
    rwa [Text.toList_ofString, String.toList_ofList]

/-- **A text without tags is loaded as JSON data.** -/
theorem madeOf_read {cs : List Char} (hu : Token.Untagged (Token.scan cs)) {v : Value}
    (h : read cs = .ok v) : v.MadeOf (Loaded (Token.scan cs)) [] := by
  have hneat : ∀ t ∈ Token.scan cs, t.IsNeat := fun t ht => isNeat_of_mem_scan ht
  have htold := told_ofTokens (Token.scan cs)
  unfold read valueOf at h
  rcases hdocument : Graph.ofTokens? Tag.ofSpelling (Token.scan cs) with cause | _ | ⟨g, root⟩ <;>
    rw [hdocument] at h htold
  · cases h
  · obtain rfl := Except.ok.inj h
    exact .scalar (Stems.loaded hneat (.inl rfl))
  · have htells : Tells (Token.scan cs) g.nodes.toList := htold hu
    have hfinds := madeOf_content htells.plain root
    have hcontent : g.content root = .ok v := h
    rw [hcontent] at hfinds
    have hmade : v.MadeOf (ReadIn g) [] := hfinds
    exact hmade.mono (fun v hv => (htells.stems hv).loaded hneat) fun _ => id

end Yaml

/-! ## Parts of a value -/

namespace Value

/-- **What is taken from a value**: the value, the items of a list, and the values of a mapping. -/
inductive Taken (v : Value) : Value → Prop
  | whole : Taken v v
  | item {w x : Value} {items : List Value} (h : Taken v w) (hw : w.sequence? = some items)
    (hx : x ∈ items) : Taken v x
  | entry {w : Value} {e : Value × Value} {entries : List (Value × Value)} (h : Taken v w)
    (hw : w.entries? = some entries) (he : e ∈ entries) : Taken v e.2

theorem Taken.trans {v w x : Value} (h : Taken v w) (h' : Taken w x) : Taken v x := by
  induction h' with
  | whole => exact h
  | item _ hw hx ih => exact ih.item hw hx
  | entry _ hw he ih => exact ih.entry hw he

theorem IsJsonScalar.parts {v : Value} (h : v.IsJsonScalar) :
    v.sequence? = none ∧ v.entries? = none := by
  cases v <;> first | exact ⟨rfl, rfl⟩ | exact h.elim

/-- A scalar has no parts. -/
theorem Taken.eq_of_isJsonScalar {v w : Value} (h : Taken v w) (hv : v.IsJsonScalar) : w = v := by
  induction h with
  | whole => rfl
  | item _ hw _ ih =>
    rw [ih, hv.parts.1] at hw
    cases hw
  | entry _ hw _ ih =>
    rw [ih, hv.parts.2] at hw
    cases hw

/-- A container that contains itself. -/
def ContainsItself (v : Value) : Prop := ∃ label container, v = .cyclic label container

/-- A whole number that is too long to be written. -/
def IsLongInt (v : Value) : Prop := ∃ n, v = .int n ∧ isTooLong n = true

/-- **A value that can be written**: nothing in it contains itself, and no number in it is too
long. -/
structure Writable (v : Value) : Prop where
  tree : ∀ w, Taken v w → ¬ w.ContainsItself
  short : ∀ w, Taken v w → ¬ w.IsLongInt
  shortKeys : ∀ w entries, Taken v w → w.entries? = some entries → ∀ e ∈ entries, ¬ e.1.IsLongInt

theorem writable_of_isJsonScalar {v : Value} (hv : v.IsJsonScalar) (short : ¬ v.IsLongInt) :
    v.Writable where
  tree w hw := by
    rw [hw.eq_of_isJsonScalar hv]
    rintro ⟨label, container, rfl⟩
    exact hv
  short w hw := by rwa [hw.eq_of_isJsonScalar hv]
  shortKeys w entries hw hentries := by
    rw [hw.eq_of_isJsonScalar hv, hv.parts.2] at hentries
    cases hentries

theorem Writable.taken {v w : Value} (h : v.Writable) (ht : Taken v w) : w.Writable where
  tree x hx := h.tree x (ht.trans hx)
  short x hx := h.short x (ht.trans hx)
  shortKeys x entries hx := h.shortKeys x entries (ht.trans hx)

theorem attachItems_eq_map (l : Nat) (whole : Value) (items : List Value) :
    attachItems l whole items = items.map (attach l whole) := by
  induction items with
  | nil => rfl
  | cons v rest ih => rw [attachItems, ih, List.map_cons]

theorem attachEntries_eq_map (l : Nat) (whole : Value) (entries : List (Value × Value)) :
    attachEntries l whole entries = entries.map fun e => (e.1, attach l whole e.2) := by
  induction entries with
  | nil => rfl
  | cons e rest ih => rw [attachEntries, ih, List.map_cons]

variable {p : Value → Prop}

/-- A container in the places that lead back to it. -/
theorem MadeOf.attach (hp : ∀ v, p v → v.IsJsonScalar) {around' : List Nat} {v : Value}
    (h : v.MadeOf p around') {around : List Nat} {whole : Value} (hwhole : whole.MadeOf p around)
    {l : Nat} (hsub : around' ⊆ l :: around) : (attach l whole v).MadeOf p around := by
  induction h generalizing around with
  | @scalar _ v hv =>
    have hscalar := hp v hv
    cases v <;> first | exact .scalar hv | cases hscalar
  | list _ ih =>
    rw [Value.attach, attachItems_eq_map]
    refine .list fun w hw => ?_
    obtain ⟨v, hv, rfl⟩ := List.mem_map.1 hw
    exact ih v hv hwhole hsub
  | map keys _ ih =>
    rw [Value.attach, attachEntries_eq_map]
    refine .map (fun e he => ?_) fun e he => ?_ <;> obtain ⟨e, hmem, rfl⟩ := List.mem_map.1 he
    · exact keys e hmem
    · exact ih e hmem hwhole hsub
  | @cyclic around' m v hv ih =>
    rw [Value.attach]
    split
    · rename_i hm
      subst hm
      have hinside : m :: around' ⊆ m :: around :=
        List.cons_subset.2 ⟨List.mem_cons_self .., hsub⟩
      exact .cyclic (hv.mono (fun _ => id) hinside)
    · have hinside : m :: around' ⊆ l :: m :: around := List.cons_subset.2
        ⟨by simp, List.Subset.trans hsub (List.cons_subset_cons l (List.subset_cons_self ..))⟩
      exact .cyclic (ih (hwhole.mono (fun _ => id) (List.subset_cons_self ..)) hinside)
  | @back around' m hm =>
    rw [Value.attach]
    split
    · exact hwhole
    · exact .back ((List.mem_cons.1 (hsub hm)).resolve_left ‹_›)

theorem MadeOf.opened (hp : ∀ v, p v → v.IsJsonScalar) {v : Value} (h : v.MadeOf p []) :
    v.opened.MadeOf p [] := by
  unfold Value.opened
  split
  · rename_i l c
    cases h with
    | scalar hv => exact absurd (hp _ hv) id
    | cyclic hc => exact hc.attach hp (.cyclic hc) fun _ => id
  · exact h

theorem MadeOf.of_list (hp : ∀ v, p v → v.IsJsonScalar) {around : List Nat} {items : List Value}
    (h : (Value.list items).MadeOf p around) : ∀ v ∈ items, v.MadeOf p around := by
  cases h with
  | scalar hv => exact absurd (hp _ hv) id
  | list h => exact h

theorem MadeOf.of_map (hp : ∀ v, p v → v.IsJsonScalar) {around : List Nat}
    {entries : List (Value × Value)} (h : (Value.map entries).MadeOf p around) :
    (∀ e ∈ entries, p e.1) ∧ ∀ e ∈ entries, e.2.MadeOf p around := by
  cases h with
  | scalar hv => exact absurd (hp _ hv) id
  | map keys values => exact ⟨keys, values⟩

/-- **What is taken from a value is made of the same.** -/
theorem MadeOf.taken (hp : ∀ v, p v → v.IsJsonScalar) {v w : Value} (h : v.MadeOf p [])
    (ht : Taken v w) : w.MadeOf p [] := by
  induction ht with
  | whole => exact h
  | @item w x items _ hw hx ih =>
    have hopened := ih.opened hp
    unfold sequence? at hw
    split at hw
    · rename_i items' heq
      obtain rfl := Option.some.inj hw
      exact (heq ▸ hopened).of_list hp x hx
    · rename_i items' heq
      rw [heq] at hopened
      cases hopened with
      | scalar hv => exact absurd (hp _ hv) id
    · cases hw
  | @entry w e entries _ hw he ih =>
    have hopened := ih.opened hp
    unfold entries? at hw
    split at hw
    · rename_i entries' heq
      obtain rfl := Option.some.inj hw
      exact ((heq ▸ hopened).of_map hp).2 e he
    · cases hw

/-! ## JSON forms -/

theorem nameOf_of_isJsonScalar {k : Value} (h : k.IsJsonScalar) (short : ¬ k.IsLongInt) :
    ∃ name, Json.nameOf k = .ok name := by
  cases k with
  | int n =>
    have hn : isTooLong n = false := by
      by_contra hlong
      exact short ⟨n, rfl, by simpa using hlong⟩
    exact ⟨.ofChars (intText n), by rw [Json.nameOf, Json.checkedInt, hn]; rfl⟩
  | null => exact ⟨_, rfl⟩
  | bool b => exact ⟨_, rfl⟩
  | float x => exact ⟨_, rfl⟩
  | str s => exact ⟨_, rfl⟩
  | _ => cases h

theorem image_of_isJsonScalar {v : Value} (h : v.IsJsonScalar) (short : ¬ v.IsLongInt) :
    ∃ j, Json.ofValue v = .ok j := by
  cases v with
  | int n =>
    have hn : isTooLong n = false := by
      by_contra hlong
      exact short ⟨n, rfl, by simpa using hlong⟩
    exact ⟨.int n, by rw [Json.ofValue, Json.image, Json.checkedInt, hn]; rfl⟩
  | null => exact ⟨_, rfl⟩
  | bool b => exact ⟨_, rfl⟩
  | float x => exact ⟨_, rfl⟩
  | str s => exact ⟨_, rfl⟩
  | _ => cases h

theorem imageItems_ok {items : List Value} (h : ∀ v ∈ items, ∃ j, Json.ofValue v = .ok j) :
    ∃ js, Json.imageItems [] items = .ok js := by
  induction items with
  | nil => exact ⟨[], rfl⟩
  | cons v rest ih =>
    obtain ⟨⟨j, hj⟩, hrest⟩ := List.forall_mem_cons.1 h
    obtain ⟨js, hjs⟩ := ih hrest
    rw [Json.ofValue] at hj
    exact ⟨j :: js, by rw [Json.imageItems, hj, hjs]; rfl⟩

theorem imageEntries_ok {entries : List (Value × Value)}
    (keys : ∀ e ∈ entries, ∃ name, Json.nameOf e.1 = .ok name)
    (values : ∀ e ∈ entries, ∃ j, Json.ofValue e.2 = .ok j) :
    ∃ members, Json.imageEntries [] entries = .ok members := by
  induction entries with
  | nil => exact ⟨[], rfl⟩
  | cons e rest ih =>
    obtain ⟨⟨name, hname⟩, hkeys⟩ := List.forall_mem_cons.1 keys
    obtain ⟨⟨j, hj⟩, hvalues⟩ := List.forall_mem_cons.1 values
    obtain ⟨members, hmembers⟩ := ih hkeys hvalues
    rw [Json.ofValue] at hj
    exact ⟨(name, j) :: members, by rw [Json.imageEntries, hname, hj, hmembers]; rfl⟩

/-- **A value made of JSON scalars that can be written has a JSON form.** -/
theorem MadeOf.shown (hp : ∀ v, p v → v.IsJsonScalar) {v : Value} (h : v.MadeOf p [])
    (hw : v.Writable) : ∃ j, Json.ofValue v = .ok j := by
  generalize haround : ([] : List Nat) = around at h
  induction h with
  | @scalar _ v hv => exact image_of_isJsonScalar (hp _ hv) (hw.short v .whole)
  | @list _ items _ ih =>
    obtain ⟨js, hjs⟩ := imageItems_ok fun v hv =>
      ih v hv (hw.taken (Taken.item .whole rfl hv)) haround
    exact ⟨.array js, by rw [Json.ofValue, Json.image, hjs]; rfl⟩
  | @map _ entries keys _ ih =>
    obtain ⟨members, hmembers⟩ := imageEntries_ok
      (fun e he => nameOf_of_isJsonScalar (hp _ (keys e he))
        (hw.shortKeys _ entries .whole rfl e he))
      fun e he => ih e he (hw.taken (Taken.entry .whole rfl he)) haround
    exact ⟨.object members, by rw [Json.ofValue, Json.image, hmembers]; rfl⟩
  | cyclic => exact absurd ⟨_, _, rfl⟩ (hw.tree _ .whole)
  | back hmem =>
    subst haround
    cases hmem

end Value

namespace Yaml

/-- **A text without tags is loaded as JSON data**, read by the standard rules except where these
see a timestamp or a truth word other than `true` and `false`; and a rule's value that is taken from
it is accepted if it can be written. -/
theorem untagged_loads {cs : List Char} (hu : Token.Untagged (Token.scan cs)) {v : Value}
    (h : read cs = .ok v) :
    v.MadeOf (Loaded (Token.scan cs)) [] ∧
      read cs = valueOf (fun text => if isTextOnly text then .str
        else Rule.resolve Rule.standard text) (Token.scan cs) ∧
      ∀ w, v.Taken w → w.Writable → ∀ id, ∃ normalized,
        Bundle.checkedValue id w = .ok normalized := by
  have hmade := madeOf_read hu h
  have hp : ∀ v, Loaded (Token.scan cs) v → v.IsJsonScalar := fun _ hv => hv.isJsonScalar
  refine ⟨hmade, ?_, fun w ht hw id => ?_⟩
  · rw [read, funext ofSpelling_eq]
  · have hshown := (hmade.taken hp ht).shown hp hw
    exact ⟨_, Bundle.checkedValue_of_shown (Severity.shown_normalize hshown)⟩

instance (ts : List Token) : Decidable (Token.Untagged ts) :=
  decidable_of_iff ((ts.all fun | .tag _ _ => false | _ => true) = true) <| by
    rw [List.all_eq_true]
    refine ⟨fun h handle suffix mem => by simpa using h _ mem, fun h t ht => ?_⟩
    cases t with
    | tag handle suffix => exact absurd ht (h handle suffix)
    | _ => rfl

/-- Whether tokens have no tag, and write a list that begins with a truth word as a text. -/
def givesTruthWord (ts : List Token) : Bool :=
  decide (Token.Untagged ts) &&
    match valueOf Tag.ofSpelling ts with
    | .ok (.list (.str word :: _)) => word = "off"
    | _ => false

/-- A truth word is a text, and a rule's value that is one is accepted. -/
theorem untagged_loads_words : ∃ v, read "[off, 0x10, 2020-01-01]".toList = .ok v ∧
    v.MadeOf (Loaded (Token.scan "[off, 0x10, 2020-01-01]".toList)) [] ∧ v.Taken (.str "off") ∧
    ∃ normalized, Bundle.checkedValue (.str "r") (.str "off") = .ok normalized := by
  have hgives : givesTruthWord (Token.scan "[off, 0x10, 2020-01-01]".toList) = true := by
    decide +kernel
  obtain ⟨huntagged, hlist⟩ := Bool.and_eq_true_iff.1 hgives
  split at hlist
  · rename_i word rest hread
    obtain rfl := of_decide_eq_true hlist
    obtain ⟨hmade, -, haccepts⟩ := untagged_loads (of_decide_eq_true huntagged) hread
    have htaken : (Value.list (.str "off" :: rest)).Taken (.str "off") :=
      .item .whole rfl (List.mem_cons_self ..)
    have hwritable : (Value.str "off").Writable :=
      Value.writable_of_isJsonScalar trivial fun ⟨n, hn, _⟩ => by cases hn
    exact ⟨_, hread, hmade, htaken, haccepts _ htaken hwritable (.str "r")⟩
  · cases hlist

/-- A configuration that gives a rule a number by its 3600 hexadecimal digits. -/
def longHex : List Char := "rules: \x7ba: 0x".toList ++ List.replicate 3600 'f' ++ ['\x7d']

/-- Whether tokens have no tag, and map something to a number that is too long. -/
def givesLongInt (ts : List Token) : Bool :=
  decide (Token.Untagged ts) &&
    match valueOf Tag.ofSpelling ts with
    | .ok (.map [(.str _, .map [(.str _, .int n)])]) => isTooLong n
    | _ => false

theorem refused_of_givesLongInt {ts : List Token} (h : givesLongInt ts = true) :
    Token.Untagged ts ∧ ∃ v w, valueOf Tag.ofSpelling ts = .ok v ∧ v.Taken w ∧
      (∀ x, w.Taken x → ¬ x.ContainsItself) ∧
      ∃ fault, Bundle.checkedValue (.str "a") w = .error fault := by
  obtain ⟨huntagged, hvalue⟩ := Bool.and_eq_true_iff.1 h
  refine ⟨of_decide_eq_true huntagged, ?_⟩
  split at hvalue
  · rename_i rules id n hread
    refine ⟨_, .int n, hread, ?_, ?_, ?_⟩
    · have hrules := Value.Taken.entry (v := .map [(.str rules, .map [(.str id, .int n)])])
        .whole rfl (List.mem_singleton_self _)
      exact hrules.entry rfl (List.mem_singleton_self _)
    · intro x hx
      rw [hx.eq_of_isJsonScalar trivial]
      rintro ⟨label, container, hno⟩
      cases hno
    · have hno : Json.ofValue (.int n) = .error .numberTooLong := by
        rw [Json.ofValue, Json.image, Json.checkedInt, if_pos hvalue]
        rfl
      have hon : Severity.normalize (.int n) = .int n := by
        refine if_neg fun hoff => ?_
        obtain rfl : n = 0 := by simpa [Severity.isOff] using hoff
        revert hvalue
        decide
      rw [Bundle.checkedValue]
      simp only [hon, hno]
      exact ⟨_, rfl⟩
  · cases hvalue

set_option maxRecDepth 100000 in
/-- **A number may be read that cannot be written**, by its digits in base sixteen. -/
theorem longHex_refused : Token.Untagged (Token.scan longHex) ∧
    ∃ v w, read longHex = .ok v ∧ v.Taken w ∧ (∀ x, w.Taken x → ¬ x.ContainsItself) ∧
      ∃ fault, Bundle.checkedValue (.str "a") w = .error fault := by
  have hlong : givesLongInt (Token.scan longHex) = true := by decide +kernel
  exact refused_of_givesLongInt hlong

end Yaml

end LintBundle
