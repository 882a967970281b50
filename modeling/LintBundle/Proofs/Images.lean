import LintBundle.Json.Basic
import LintBundle.Proofs.Chaining
import Mathlib.Data.Nat.Notation

/-!
# Proofs/Images — what the JSON image of a value keeps

The image of a value is the value, with its tuples as lists and its keys as texts (`jsonForm`):
nothing else changes, and all items and entries are there in their order.  So values with one image
are one value in this form.  A value with an image does not contain itself, and what is inside it
has an image whatever is around it.
-/

namespace LintBundle

/-! ## The form of a value -/

namespace Value

/-- A key as the text JSON writes for it, if it writes any. -/
def nameForm (k : Value) : Value :=
  match Json.nameOf k with
  | .ok name => .str name
  | .error _ => k

mutual

/-- **A value with its tuples as lists and its keys as texts.** -/
def jsonForm : Value → Value
  | .list items => .list (itemForms items)
  | .tuple items => .list (itemForms items)
  | .map entries => .map (entryForms entries)
  | .cyclic _ v => jsonForm v
  | v => v

def itemForms : List Value → List Value
  | [] => []
  | v :: rest => jsonForm v :: itemForms rest

def entryForms : List (Value × Value) → List (Value × Value)
  | [] => []
  | (k, v) :: rest => (nameForm k, jsonForm v) :: entryForms rest

end

end Value

namespace Json

mutual

/-- JSON data as a value; every member stays, in its place. -/
def data : Json → Value
  | .null => .null
  | .bool b => .bool b
  | .int n => .int n
  | .float x => .float x
  | .str s => .str s
  | .array items => .list (dataItems items)
  | .object members => .map (dataEntries members)

def dataItems : List Json → List Value
  | [] => []
  | j :: rest => data j :: dataItems rest

def dataEntries : List (Text × Json) → List (Value × Value)
  | [] => []
  | (name, j) :: rest => (.str name, data j) :: dataEntries rest

end

mutual

/-- Data in which no whole number is too long. -/
def Readable : Json → Prop
  | .int n => isTooLong n = false
  | .array items => ReadableItems items
  | .object members => ReadableMembers members
  | _ => True

def ReadableItems : List Json → Prop
  | [] => True
  | j :: rest => Readable j ∧ ReadableItems rest

def ReadableMembers : List (Text × Json) → Prop
  | [] => True
  | (_, j) :: rest => Readable j ∧ ReadableMembers rest

end

/-! ## Where an image comes from -/

section Inversion

variable {around : List ℕ} {j : Json}

theorem image_int_ok {n : Int} (h : image around (.int n) = .ok j) :
    isTooLong n = false ∧ j = .int n := by
  simp only [image, checkedInt] at h
  split at h
  · cases h
  · rename_i hn
    exact ⟨by simpa using hn, (Except.ok.inj h).symm⟩

theorem image_cyclic_ok {l : ℕ} {v : Value} (h : image around (.cyclic l v) = .ok j) :
    image (l :: around) v = .ok j := by
  simp only [image] at h
  split at h
  · cases h
  · exact h

theorem imageItems_cons_ok {v : Value} {rest : List Value} {js : List Json}
    (h : imageItems around (v :: rest) = .ok js) :
    ∃ j js', image around v = .ok j ∧ imageItems around rest = .ok js' ∧ js = j :: js' := by
  rw [imageItems] at h
  obtain ⟨j, hv, h⟩ := bind_eq_ok_iff.1 h
  obtain ⟨js', hr, h⟩ := bind_eq_ok_iff.1 h
  exact ⟨j, js', hv, hr, (Except.ok.inj h).symm⟩

theorem imageEntries_cons_ok {k v : Value} {rest : List (Value × Value)}
    {members : List (Text × Json)} (h : imageEntries around ((k, v) :: rest) = .ok members) :
    ∃ name j more, nameOf k = .ok name ∧ image around v = .ok j ∧
      imageEntries around rest = .ok more ∧ members = (name, j) :: more := by
  rw [imageEntries] at h
  obtain ⟨name, hk, h⟩ := bind_eq_ok_iff.1 h
  obtain ⟨j, hv, h⟩ := bind_eq_ok_iff.1 h
  obtain ⟨more, hr, h⟩ := bind_eq_ok_iff.1 h
  exact ⟨name, j, more, hk, hv, hr, (Except.ok.inj h).symm⟩

end Inversion

/-! ## What an image is -/

mutual

/-- **The image of a value is its form**, and can be read. -/
theorem image_spec {around : List ℕ} {v : Value} {j : Json} (h : image around v = .ok j) :
    j.data = v.jsonForm ∧ j.Readable := by
  cases v with
  | int n =>
    obtain ⟨hn, rfl⟩ := image_int_ok h
    exact ⟨by simp only [data, Value.jsonForm], hn⟩
  | list items | tuple items =>
    simp only [image] at h
    obtain ⟨js, hi, rfl⟩ := map_eq_ok h
    obtain ⟨hdata, hreadable⟩ := imageItems_spec hi
    exact ⟨by simp only [data, Value.jsonForm, hdata], hreadable⟩
  | map entries =>
    simp only [image] at h
    obtain ⟨members, he, rfl⟩ := map_eq_ok h
    obtain ⟨hdata, hreadable⟩ := imageEntries_spec he
    exact ⟨by simp only [data, Value.jsonForm, hdata], hreadable⟩
  | cyclic l v =>
    rw [Value.jsonForm]
    exact image_spec (image_cyclic_ok h)
  | null | bool b | float x | str s =>
    cases h
    exact ⟨by simp only [data, Value.jsonForm], trivial⟩
  | _ => cases h

theorem imageItems_spec {around : List ℕ} {items : List Value} {js : List Json}
    (h : imageItems around items = .ok js) :
    dataItems js = Value.itemForms items ∧ ReadableItems js := by
  cases items with
  | nil =>
    cases h
    exact ⟨rfl, trivial⟩
  | cons v rest =>
    obtain ⟨j, js', hv, hr, rfl⟩ := imageItems_cons_ok h
    obtain ⟨hdata, hreadable⟩ := image_spec hv
    obtain ⟨hdatas, hreadables⟩ := imageItems_spec hr
    exact ⟨by simp only [dataItems, Value.itemForms, hdata, hdatas], hreadable, hreadables⟩

theorem imageEntries_spec {around : List ℕ} {entries : List (Value × Value)}
    {members : List (Text × Json)} (h : imageEntries around entries = .ok members) :
    dataEntries members = Value.entryForms entries ∧ ReadableMembers members := by
  cases entries with
  | nil =>
    cases h
    exact ⟨rfl, trivial⟩
  | cons e rest =>
    obtain ⟨k, v⟩ := e
    obtain ⟨name, j, more, hk, hv, hr, rfl⟩ := imageEntries_cons_ok h
    obtain ⟨hdata, hreadable⟩ := image_spec hv
    obtain ⟨hdatas, hreadables⟩ := imageEntries_spec hr
    have hkey : k.nameForm = .str name := by rw [Value.nameForm, hk]
    exact ⟨by simp only [dataEntries, Value.entryForms, hkey, hdata, hdatas], hreadable,
      hreadables⟩

end

/-! ## Labels -/

mutual

/-- **Fewer labels around a value** are as good for an image. -/
theorem image_of_subset {around fewer : List ℕ} {v : Value} {j : Json} (hsub : fewer ⊆ around)
    (h : image around v = .ok j) : image fewer v = .ok j := by
  cases v with
  | list items | tuple items =>
    simp only [image] at h ⊢
    obtain ⟨js, hi, rfl⟩ := map_eq_ok h
    rw [imageItems_of_subset hsub hi]
    rfl
  | map entries =>
    simp only [image] at h ⊢
    obtain ⟨members, he, rfl⟩ := map_eq_ok h
    rw [imageEntries_of_subset hsub he]
    rfl
  | cyclic l v =>
    simp only [image] at h ⊢
    split at h
    · cases h
    · rename_i hl
      have hnone : ¬ fewer.contains l = true := by
        rw [List.contains_iff_mem] at hl ⊢
        exact fun hmem => hl (hsub hmem)
      rw [if_neg hnone]
      exact image_of_subset (List.cons_subset_cons l hsub) h
  | back l => cases h
  | _ => exact h

theorem imageItems_of_subset {around fewer : List ℕ} {items : List Value} {js : List Json}
    (hsub : fewer ⊆ around) (h : imageItems around items = .ok js) :
    imageItems fewer items = .ok js := by
  cases items with
  | nil => exact h
  | cons v rest =>
    obtain ⟨j, js', hv, hr, rfl⟩ := imageItems_cons_ok h
    rw [imageItems, image_of_subset hsub hv, imageItems_of_subset hsub hr]
    rfl

theorem imageEntries_of_subset {around fewer : List ℕ} {entries : List (Value × Value)}
    {members : List (Text × Json)} (hsub : fewer ⊆ around)
    (h : imageEntries around entries = .ok members) : imageEntries fewer entries = .ok members := by
  cases entries with
  | nil => exact h
  | cons e rest =>
    obtain ⟨k, v⟩ := e
    obtain ⟨name, j, more, hk, hv, hr, rfl⟩ := imageEntries_cons_ok h
    rw [imageEntries, hk, image_of_subset hsub hv, imageEntries_of_subset hsub hr]
    rfl

end

mutual

/-- **A value with an image has no way back** to a container around it. -/
theorem attach_of_image {around : List ℕ} {v : Value} {j : Json} {l : ℕ} (hl : l ∈ around)
    (whole : Value) (h : image around v = .ok j) : Value.attach l whole v = v := by
  cases v with
  | list items | tuple items =>
    simp only [image] at h
    obtain ⟨js, hi, -⟩ := map_eq_ok h
    rw [Value.attach, attachItems_of_image hl whole hi]
  | map entries =>
    simp only [image] at h
    obtain ⟨members, he, -⟩ := map_eq_ok h
    rw [Value.attach, attachEntries_of_image hl whole he]
  | cyclic l' v =>
    rw [Value.attach, attach_of_image (List.mem_cons_of_mem l' hl) whole (image_cyclic_ok h),
      ite_self]
  | back l' => cases h
  | _ => simp only [Value.attach]

theorem attachItems_of_image {around : List ℕ} {items : List Value} {js : List Json} {l : ℕ}
    (hl : l ∈ around) (whole : Value) (h : imageItems around items = .ok js) :
    Value.attachItems l whole items = items := by
  cases items with
  | nil => rfl
  | cons v rest =>
    obtain ⟨j, js', hv, hr, -⟩ := imageItems_cons_ok h
    rw [Value.attachItems, attach_of_image hl whole hv, attachItems_of_image hl whole hr]

theorem attachEntries_of_image {around : List ℕ} {entries : List (Value × Value)}
    {members : List (Text × Json)} {l : ℕ} (hl : l ∈ around) (whole : Value)
    (h : imageEntries around entries = .ok members) :
    Value.attachEntries l whole entries = entries := by
  cases entries with
  | nil => rfl
  | cons e rest =>
    obtain ⟨k, v⟩ := e
    obtain ⟨name, j, more, -, hv, hr, -⟩ := imageEntries_cons_ok h
    rw [Value.attachEntries, attach_of_image hl whole hv, attachEntries_of_image hl whole hr]

end

/-- **What is inside a value with an image has that image.** -/
theorem ofValue_opened {v : Value} {j : Json} (h : ofValue v = .ok j) :
    ofValue v.opened = .ok j := by
  cases v with
  | cyclic l v =>
    have hin : image [l] v = .ok j := image_cyclic_ok h
    rw [Value.opened, attach_of_image (List.mem_singleton.2 rfl) _ hin]
    exact image_of_subset (List.nil_subset _) hin
  | _ => exact h

/-- The items of a sequence with an image have images. -/
theorem imageItems_of_sequence {v : Value} {items : List Value} {j : Json}
    (h : ofValue v = .ok j) (hs : v.sequence? = some items) :
    ∃ js, imageItems [] items = .ok js := by
  have hopened := ofValue_opened h
  rw [Value.sequence?] at hs
  split at hs
  · rename_i hlist
    obtain rfl := Option.some.inj hs
    rw [hlist] at hopened
    obtain ⟨js, hjs, -⟩ := map_eq_ok hopened
    exact ⟨js, hjs⟩
  · rename_i htuple
    obtain rfl := Option.some.inj hs
    rw [htuple] at hopened
    obtain ⟨js, hjs, -⟩ := map_eq_ok hopened
    exact ⟨js, hjs⟩
  · cases hs

end Json

end LintBundle
