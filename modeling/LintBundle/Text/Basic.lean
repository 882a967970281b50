/-!
# Text/Basic — texts and their code points

A text is a sequence of code points.  Most of them are characters, but the halves of surrogate pairs
are code points as well, and escapes in a file can name them one by one.  A half is no character: a
text that holds one has no encoding in UTF-8, and two halves next to each other stay two, also where
they would make up a character.

Texts are cut at marks into pieces (`split`) and put together again (`join`); `words` are the pieces
between blanks, none of them empty.
-/

namespace LintBundle

/-! ## Code points -/

/-- A code point of a text. -/
inductive Point
  | char (c : Char)
  /-- A half of a surrogate pair, by its distance from the first of them. -/
  | half (i : Fin 2048)
  deriving DecidableEq, Repr

instance : Coe Char Point := ⟨.char⟩

namespace Point

/-- The number of a code point. -/
def toNat : Point → Nat
  | char c => c.toNat
  | half i => 0xd800 + i

/-- The code point with a number, which is at most that of the last character. -/
def ofNat (n : Nat) : Point :=
  if h : 0xd800 ≤ n ∧ n < 0xe000 then half ⟨n - 0xd800, by omega⟩ else char (Char.ofNat n)

/-- The character, if the code point is one. -/
def char? : Point → Option Char
  | char c => some c
  | half _ => none

/-- The character that a code point is classed as: a half counts as U+FFFD, which no number, word or
mark is written with. -/
def shape : Point → Char
  | char c => c
  | half _ => '\ufffd'

/-- The bytes of a code point in the name of a file: a character in UTF-8, and some of the halves
for the bytes that are none. -/
def fileBytes? : Point → Option (List UInt8)
  | char c => some (String.utf8EncodeChar c)
  | half i => if 0x480 ≤ i.val && i.val < 0x500 then some [UInt8.ofNat (i - 0x400)] else none

/-- The code of a character is that of no half. -/
theorem toNat_char (c : Char) :
    c.toNat < 0xd800 ∨ (0xdfff < c.toNat ∧ c.toNat < 0x110000) := c.valid

@[simp] theorem ofNat_toNat (p : Point) : ofNat p.toNat = p := by
  cases p with
  | char c =>
    have hc := toNat_char c
    rw [ofNat, toNat, dif_neg (by omega), Char.ofNat_toNat]
  | half i =>
    rw [toNat, ofNat, dif_pos (by omega)]
    exact congrArg half (Fin.ext (Nat.add_sub_cancel_left ..))

theorem ofNat_half {n : Nat} (h : n < 2048) : ofNat (0xd800 + n) = half ⟨n, h⟩ := by
  rw [ofNat, dif_pos (by omega)]
  exact congrArg half (Fin.ext (Nat.add_sub_cancel_left ..))

end Point

/-! ## Texts -/

/-- A text. -/
@[ext]
structure Text where ofList ::
  toList : List Point
  deriving DecidableEq, Repr

namespace Text

/-- The text of characters. -/
def ofChars (cs : List Char) : Text := ⟨cs.map .char⟩

/-- The text of a string.  Bytes below 128 are characters, so a string of them is read off its
bytes: the text of a literal is computed without decoding it. -/
def ofString (s : String) : Text :=
  let bytes := s.toByteArray.data.toList
  if bytes.all (· ≤ 127) then ⟨bytes.map fun b => .char (Char.ofNat b.toNat)⟩ else ofChars s.toList

instance : Coe String Text := ⟨ofString⟩

instance : Inhabited Text := ⟨""⟩

instance : Append Text := ⟨fun s t => ⟨s.toList ++ t.toList⟩⟩

/-- The number of code points. -/
def length (t : Text) : Nat := t.toList.length

/-- Whether a text has no code point. -/
def isEmpty (t : Text) : Bool := t.toList.isEmpty

/-- Texts with another one between them. -/
def intercalate (gap : Text) (ts : List Text) : Text :=
  ⟨gap.toList.intercalate (ts.map toList)⟩

/-- The characters, if all code points are. -/
def chars? (ps : List Point) : Option (List Char) := ps.mapM Point.char?

/-- **The text as it is written in UTF-8**, if it holds no half. -/
def written? (t : Text) : Option String := (chars? t.toList).map String.ofList

/-- The characters that code points are classed as. -/
def shapes (ps : List Point) : List Char := ps.map Point.shape

/-- The bytes of a text in the name of a file. -/
def fileBytes (t : Text) : List UInt8 := t.toList.flatMap fun p => p.fileBytes?.getD []

@[simp] theorem toList_append (s t : Text) : (s ++ t).toList = s.toList ++ t.toList := rfl

@[simp] theorem toList_ofList (ps : List Point) : (ofList ps).toList = ps := rfl

@[simp] theorem ofList_toList (t : Text) : ofList t.toList = t := rfl

@[simp] theorem ofList_append (ps qs : List Point) :
    ofList (ps ++ qs) = ofList ps ++ ofList qs := rfl

@[simp] theorem toList_ofChars (cs : List Char) : (ofChars cs).toList = cs.map .char := rfl

/-- A character whose bytes are below 128 takes one byte, which is its number. -/
theorem utf8EncodeChar_of_all {c : Char} (h : (String.utf8EncodeChar c).all (· ≤ 127) = true) :
    (String.utf8EncodeChar c).map (fun b => Char.ofNat b.toNat) = [c] := by
  by_cases hc : c.val.toNat ≤ 127
  · have hone : String.utf8EncodeChar c = [UInt8.ofNat c.toNat] := if_pos hc
    have hsmall : c.toNat < 2 ^ 8 := Nat.lt_of_le_of_lt hc (by decide)
    rw [hone, List.map_singleton, UInt8.toNat_ofNat', Nat.mod_eq_of_lt hsmall, Char.ofNat_toNat]
  · rw [String.utf8EncodeChar, if_neg hc] at h
    split at h
    case isTrue => simp [UInt8.le_iff_toNat_le] at h; omega
    case isFalse =>
      split at h <;> simp [UInt8.le_iff_toNat_le] at h <;> omega

/-- A string of bytes below 128 has a character for each of them. -/
theorem map_utf8Encode_of_all {cs : List Char}
    (h : (cs.flatMap String.utf8EncodeChar).all (· ≤ 127) = true) :
    (cs.flatMap String.utf8EncodeChar).map (fun b => Char.ofNat b.toNat) = cs := by
  induction cs with
  | nil => rfl
  | cons c cs ih =>
    rw [List.flatMap_cons, List.all_append, Bool.and_eq_true] at h
    rw [List.flatMap_cons, List.map_append, utf8EncodeChar_of_all h.1, ih h.2]
    rfl

theorem ofString_eq (s : String) : ofString s = ofChars s.toList := by
  obtain ⟨cs, rfl⟩ : ∃ cs, s = String.ofList cs := ⟨s.toList, String.ofList_toList.symm⟩
  have hbytes : (String.ofList cs).toByteArray.data.toList = cs.flatMap String.utf8EncodeChar := by
    rw [String.toByteArray_ofList, List.utf8Encode, List.data_toByteArray]
  simp only [ofString, hbytes, String.toList_ofList]
  split
  case isFalse => rfl
  case isTrue h =>
    conv => rhs; rw [← map_utf8Encode_of_all h, ofChars, List.map_map]
    rfl

@[simp] theorem toList_ofString (s : String) : (ofString s).toList = s.toList.map .char := by
  rw [ofString_eq, toList_ofChars]

@[simp] theorem toList_intercalate (gap : Text) (ts : List Text) :
    (intercalate gap ts).toList = gap.toList.intercalate (ts.map toList) := rfl

@[simp] theorem toList_inj {s t : Text} : s.toList = t.toList ↔ s = t := Text.ext_iff.symm

@[simp] theorem toList_eq_nil_iff {t : Text} : t.toList = [] ↔ t = "" := Text.ext_iff.symm

@[simp] theorem ofList_inj {ps qs : List Point} : ofList ps = ofList qs ↔ ps = qs :=
  Text.ext_iff

@[simp] theorem ofList_eq_empty_iff {ps : List Point} : ofList ps = "" ↔ ps = [] := Text.ext_iff

@[simp] theorem intercalate_singleton (gap t : Text) : intercalate gap [t] = t :=
  Text.ext (List.append_nil _)

@[simp] theorem intercalate_cons_cons (gap s t : Text) (ts : List Text) :
    intercalate gap (s :: t :: ts) = s ++ gap ++ intercalate gap (t :: ts) :=
  Text.ext (List.append_assoc ..).symm

@[simp] theorem append_eq_empty_iff {s t : Text} : s ++ t = "" ↔ s = "" ∧ t = "" := by
  rw [← toList_eq_nil_iff, toList_append, List.append_eq_nil_iff, toList_eq_nil_iff,
    toList_eq_nil_iff]

@[simp] theorem intercalate_nil (gap : Text) : intercalate gap [] = "" := rfl

theorem intercalate_cons_of_ne_nil {gap : Text} {ts : List Text} (h : ts ≠ []) (t : Text) :
    intercalate gap (t :: ts) = t ++ gap ++ intercalate gap ts := by
  obtain ⟨u, us, rfl⟩ := List.exists_cons_of_ne_nil h
  exact intercalate_cons_cons gap t u us

@[simp] theorem append_right_inj (s : Text) {t u : Text} : s ++ t = s ++ u ↔ t = u := by
  rw [← toList_inj, toList_append, toList_append, List.append_cancel_left_eq, toList_inj]

@[simp] theorem append_left_inj {s t : Text} (u : Text) : s ++ u = t ++ u ↔ s = t := by
  rw [← toList_inj, toList_append, toList_append, List.append_cancel_right_eq, toList_inj]

theorem append_assoc (s t u : Text) : s ++ t ++ u = s ++ (t ++ u) :=
  Text.ext (List.append_assoc ..)

theorem map_char_inj {cs ds : List Char} : cs.map Point.char = ds.map Point.char ↔ cs = ds :=
  List.map_inj_right fun _ _ h => Point.char.inj h

@[simp] theorem ofChars_inj {cs ds : List Char} : ofChars cs = ofChars ds ↔ cs = ds := by
  rw [Text.ext_iff, toList_ofChars, toList_ofChars, map_char_inj]

@[simp] theorem ofString_inj {s t : String} : ofString s = ofString t ↔ s = t := by
  rw [ofString_eq, ofString_eq, ofChars_inj, String.toList_inj]

@[simp] theorem isEmpty_iff {t : Text} : t.isEmpty = true ↔ t = "" := by
  rw [isEmpty, List.isEmpty_iff, Text.ext_iff]
  rfl

@[simp] theorem shapes_map_char (cs : List Char) : shapes (cs.map .char) = cs := by
  rw [shapes, List.map_map]
  exact List.map_id cs

@[simp] theorem chars?_map_char (cs : List Char) : chars? (cs.map .char) = some cs := by
  induction cs with
  | nil => rfl
  | cons c cs ih =>
    rw [List.map_cons, chars?, List.mapM_cons, ← chars?, ih]
    rfl

theorem chars?_cons (p : Point) (ps : List Point) :
    chars? (p :: ps) = p.char?.bind fun c => (chars? ps).map (c :: ·) := by
  rw [chars?, List.mapM_cons]
  cases p with
  | half i => rfl
  | char c => cases hps : ps.mapM Point.char? <;> simp [Point.char?, chars?, hps]

theorem chars?_eq_some_iff {ps : List Point} {cs : List Char} :
    chars? ps = some cs ↔ ps = cs.map .char := by
  refine ⟨fun h => ?_, fun h => h ▸ chars?_map_char cs⟩
  induction ps generalizing cs with
  | nil =>
    cases h
    rfl
  | cons p ps ih =>
    rw [chars?_cons] at h
    obtain ⟨c, hc, h⟩ := Option.bind_eq_some_iff.1 h
    obtain ⟨ds, hds, rfl⟩ := Option.map_eq_some_iff.1 h
    cases p with
    | half i => cases hc
    | char d =>
      cases hc
      rw [ih hds, List.map_cons]

theorem chars?_eq_none_iff {ps : List Point} : chars? ps = none ↔ ∃ i, .half i ∈ ps := by
  induction ps with
  | nil => simp [chars?]
  | cons p ps ih =>
    rw [chars?_cons]
    cases p with
    | half i => simp [Point.char?]
    | char c => simp [Point.char?, ih]

/-- **What is written in UTF-8 is the text itself.** -/
theorem written?_eq_some_iff {t : Text} {s : String} : t.written? = some s ↔ t = s := by
  rw [written?, Option.map_eq_some_iff]
  constructor
  · rintro ⟨cs, hcs, rfl⟩
    exact Text.ext ((chars?_eq_some_iff.1 hcs).trans
      (by rw [toList_ofString, String.toList_ofList]))
  · rintro rfl
    exact ⟨s.toList, chars?_eq_some_iff.2 (toList_ofString s), String.ofList_toList⟩

@[simp] theorem written?_ofString (s : String) : (s : Text).written? = some s :=
  written?_eq_some_iff.2 rfl

/-- **A text cannot be written exactly if it holds a half.** -/
theorem written?_eq_none_iff {t : Text} : t.written? = none ↔ ∃ i, .half i ∈ t.toList := by
  rw [written?, Option.map_eq_none_iff, chars?_eq_none_iff]

/-! ## Pieces -/

section Pieces

variable {α : Type} [DecidableEq α]

/-- The pieces of a sequence between the occurrences of a mark: one more than there are marks. -/
def split (mark : α) : List α → List (List α)
  | [] => [[]]
  | c :: rest =>
    if c = mark then [] :: split mark rest
    else
      match split mark rest with
      | [] => [[c]]
      | piece :: more => (c :: piece) :: more

end Pieces

/-- Pieces with a mark between them. -/
def join {α : Type} (mark : α) (pieces : List (List α)) : List α := [mark].intercalate pieces

end Text

end LintBundle
