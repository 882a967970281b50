import LintBundle.Json.Printer
import LintBundle.Json.Reader
import Mathlib.Data.Nat.Notation

/-!
# Proofs/QuotedText — texts in JSON quotes are read back with their pairs joined

    text ──unitsOf──▸ code units ──written, read──▸ code units ──joined──▸ text

Each code point is written as itself, as an escape of one letter, or as one or two code units.  What
is read of it are these units (`unitsOf`): of a character beyond the first 65536 the two halves of a
pair, of a half the half.  The reader joins the halves of pairs, so what comes back is the text with
its pairs joined (`text_quotedText`), and two texts are written alike exactly if that makes them one
(`quotedText_inj`).
-/

namespace LintBundle

/-- A text with its pairs of halves joined. -/
def Text.paired (t : Text) : Text := .ofList (joined t.toList)

namespace Json

open Display (hex hexDigit)
open Text (joined pair?)

/-! ## Code units -/

theorem hexValue?_hexDigit : ∀ d < 16, Text.hexValue? (hexDigit d) = some d := by decide

/-- **The four digits of a code unit name it.** -/
theorem unit?_hex {unit : ℕ} (h : unit < 0x10000) :
    ∃ a b c d, hex 4 unit = [a, b, c, d] ∧ Reader.unit? a b c d = some (.ofNat unit) := by
  refine ⟨_, _, _, _, rfl, ?_⟩
  have h₁ := hexValue?_hexDigit (unit / 16 / 16 / 16 % 16) (by omega)
  have h₂ := hexValue?_hexDigit (unit / 16 / 16 % 16) (by omega)
  have h₃ := hexValue?_hexDigit (unit / 16 % 16) (by omega)
  have h₄ := hexValue?_hexDigit (unit % 16) (by omega)
  simp only [Reader.unit?, Text.hexCode?, List.foldlM_cons, List.foldlM_nil, h₁, h₂, h₃, h₄,
    Option.map_some, Option.bind_eq_bind, Option.bind_some, Option.pure_def]
  congr 2
  omega

/-- An escaped code unit is read as the unit. -/
theorem units_unitEscape {unit : ℕ} (h : unit < 0x10000) (rest : List Char) :
    Reader.units (unitEscape unit ++ rest)
      = (Reader.units rest).map fun (us, r) => (.ofNat unit :: us, r) := by
  obtain ⟨a, b, c, d, hdigits, hunit⟩ := unit?_hex h
  rw [unitEscape, hdigits]
  change Reader.units ('\\' :: 'u' :: a :: b :: c :: d :: rest) = _
  rw [Reader.units, hunit]
  cases Reader.units rest <;> rfl

/-- The half of a pair that stands for the upper bits of a code, and that for the lower ones. -/
def highHalf (code : ℕ) : Fin 2048 :=
  ⟨(code - 0x10000) / 0x400 % 2048, Nat.mod_lt _ (by decide)⟩

def lowHalf (code : ℕ) : Fin 2048 :=
  ⟨(0x400 + (code - 0x10000) % 0x400) % 2048, Nat.mod_lt _ (by decide)⟩

/-- The code units of a code point. -/
def unitsOf : Point → List Point
  | .char c =>
    if c.toNat < 0x10000 then [.char c] else [.half (highHalf c.toNat), .half (lowHalf c.toNat)]
  | .half i => [.half i]

theorem val_highHalf (c : Char) : (highHalf c.toNat).val = (c.toNat - 0x10000) / 0x400 := by
  have hrange := Point.toNat_char c
  exact Nat.mod_eq_of_lt (by omega)

theorem val_lowHalf (c : Char) : (lowHalf c.toNat).val = 0x400 + (c.toNat - 0x10000) % 0x400 :=
  Nat.mod_eq_of_lt (by omega)

/-- The second half of a pair is a low one. -/
theorem pair?_eq_none {i j : Fin 2048} (h : j.val < 0x400) : pair? i j = none := by
  rw [pair?, if_neg]
  simp [Fin.le_def]
  omega

/-- **Two halves make a character exactly if they are its halves.** -/
theorem pair?_eq_some_iff {i j : Fin 2048} {c : Char} :
    pair? i j = some c ↔ unitsOf (.char c) = [.half i, .half j] := by
  have hrange := Point.toNat_char c
  have hhigh := val_highHalf c
  have hlow := val_lowHalf c
  have hunits : unitsOf (.char c) = [.half i, .half j] ↔
      0x10000 ≤ c.toNat ∧ highHalf c.toNat = i ∧ lowHalf c.toNat = j := by
    rw [unitsOf]
    split <;> simp <;> omega
  rw [hunits, pair?, Option.ite_none_right_eq_some, Option.some.injEq]
  simp only [Bool.and_eq_true, decide_eq_true_eq, Fin.lt_def, Fin.le_def, Fin.ext_iff]
  constructor
  · rintro ⟨⟨hi, hj⟩, rfl⟩
    have hi : i.val < 0x400 := hi
    have hj : 0x400 ≤ j.val := hj
    have hvalid : (0x10000 + i.val * 0x400 + (j.val - 0x400)).isValidChar := .inr (by omega)
    have hcode : (Char.ofNat (0x10000 + i.val * 0x400 + (j.val - 0x400))).toNat
        = 0x10000 + i.val * 0x400 + (j.val - 0x400) := by
      rw [Char.ofNat, dif_pos hvalid]
      rfl
    rw [hcode] at hhigh hlow ⊢
    omega
  · rintro ⟨hlarge, hi, hj⟩
    refine ⟨⟨show i.val < 0x400 by omega, show 0x400 ≤ j.val by omega⟩, ?_⟩
    have hcode : 0x10000 + i.val * 0x400 + (j.val - 0x400) = c.toNat := by omega
    rw [hcode, Char.ofNat_toNat]

theorem ofNat_high (c : Char) :
    Point.ofNat (0xd800 + (c.toNat - 0x10000) / 0x400) = .half (highHalf c.toNat) := by
  rw [← val_highHalf, Point.ofNat_half (highHalf c.toNat).isLt]

theorem ofNat_low (c : Char) :
    Point.ofNat (0xdc00 + (c.toNat - 0x10000) % 0x400) = .half (lowHalf c.toNat) := by
  have hval : 0xdc00 + (c.toNat - 0x10000) % 0x400 = 0xd800 + (lowHalf c.toNat).val := by
    rw [val_lowHalf]
    omega
  rw [hval, Point.ofNat_half (lowHalf c.toNat).isLt]

/-! ## Pairs that are joined -/

@[simp] theorem joined_char (c : Char) (ps : List Point) :
    joined (.char c :: ps) = .char c :: joined ps := by
  rw [joined]
  simp

theorem joined_pair {i j : Fin 2048} {c : Char} (h : pair? i j = some c) (ps : List Point) :
    joined (.half i :: .half j :: ps) = .char c :: joined ps := by
  rw [joined, h]

/-- A half stays one, unless the second half of its pair follows. -/
theorem joined_half {i : Fin 2048} {ps : List Point}
    (h : ∀ j rest, ps = .half j :: rest → pair? i j = none) :
    joined (.half i :: ps) = .half i :: joined ps := by
  rcases ps with _ | ⟨_ | j, rest⟩
  · rfl
  · rw [joined]
    simp
  · rw [joined, h j rest rfl]

theorem joined_unitsOf_char (c : Char) (us : List Point) :
    joined (unitsOf (.char c) ++ us) = .char c :: joined us := by
  by_cases hsmall : c.toNat < 0x10000
  · rw [unitsOf, if_pos hsmall]
    exact joined_char c us
  · have hunits : unitsOf (.char c) = [.half (highHalf c.toNat), .half (lowHalf c.toNat)] := by
      rw [unitsOf, if_neg hsmall]
    rw [hunits]
    exact joined_pair (pair?_eq_some_iff.2 hunits) us

/-- A half in front of units stays one if it does so in front of the text they are of. -/
theorem pair?_of_units {i : Fin 2048} {ps : List Point}
    (h : ∀ j rest, ps = .half j :: rest → pair? i j = none) (j : Fin 2048) (rest : List Point)
    (hunits : ps.flatMap unitsOf = .half j :: rest) : pair? i j = none := by
  rcases ps with _ | ⟨c | k, ps⟩
  · cases hunits
  · rw [List.flatMap_cons, unitsOf] at hunits
    split at hunits
    · cases hunits
    · cases hunits
      exact pair?_eq_none (by have := val_highHalf c; have := Point.toNat_char c; omega)
  · cases hunits
    exact h _ _ rfl

/-- **The units of a text make the text with its pairs joined.** -/
@[simp] theorem joined_unitsOf (ps : List Point) : joined (ps.flatMap unitsOf) = joined ps := by
  induction ps using Text.joined.induct with
  | case1 i j rest c hpair ih =>
    rw [joined_pair hpair, ← ih]
    exact joined_pair hpair _
  | case2 i j rest hpair ih =>
    have halone : ∀ j' rest', Point.half j :: rest = .half j' :: rest' → pair? i j' = none := by
      rintro _ _ ⟨⟩
      exact hpair
    rw [joined_half halone, ← ih]
    exact joined_half (pair?_of_units halone)
  | case3 p rest hno ih =>
    cases p with
    | char c => rw [joined_char, ← ih, List.flatMap_cons, joined_unitsOf_char]
    | half i =>
      have halone : ∀ j rest', rest = .half j :: rest' → pair? i j = none :=
        fun j rest' h => (hno i j rest' rfl h).elim
      rw [joined_half halone, ← ih]
      exact joined_half (pair?_of_units halone)
  | case4 => rfl

/-- Joining pairs keeps the units. -/
@[simp] theorem flatMap_unitsOf_joined (ps : List Point) :
    (joined ps).flatMap unitsOf = ps.flatMap unitsOf := by
  induction ps using Text.joined.induct with
  | case1 i j rest c hpair ih =>
    rw [joined_pair hpair, List.flatMap_cons, pair?_eq_some_iff.1 hpair, ih]
    rfl
  | case2 i j rest hpair ih =>
    rw [Text.joined, hpair, List.flatMap_cons, ih]
    rfl
  | case3 p rest hno ih => rw [Text.joined.eq_2 _ _ hno, List.flatMap_cons, ih, List.flatMap_cons]
  | case4 => rfl

/-- **Texts with the same pairs joined are those with the same units.** -/
theorem joined_inj {ps qs : List Point} :
    joined ps = joined qs ↔ ps.flatMap unitsOf = qs.flatMap unitsOf := by
  constructor
  · intro h
    rw [← flatMap_unitsOf_joined ps, h, flatMap_unitsOf_joined]
  · intro h
    rw [← joined_unitsOf ps, h, joined_unitsOf]

/-- **What has no pair stays as it is.** -/
theorem joined_eq_self {ps : List Point}
    (h : ∀ i j, [.half i, .half j] <:+: ps → pair? i j = none) : joined ps = ps := by
  induction ps using Text.joined.induct with
  | case1 i j rest c hpair ih => simp [h i j ⟨[], rest, rfl⟩] at hpair
  | case2 i j rest hpair ih =>
    rw [Text.joined, hpair]
    simp only
    rw [ih fun i' j' hin => h i' j' (hin.trans (List.suffix_cons ..).isInfix)]
  | case3 p rest hno ih =>
    rw [Text.joined.eq_2 _ _ hno, ih fun i' j' hin =>
      h i' j' (hin.trans (List.suffix_cons ..).isInfix)]
  | case4 => rfl

end Json

namespace Text

/-- No half in a text is followed by the second half of its pair. -/
def Unpaired (t : Text) : Prop := ∀ i j, [.half i, .half j] <:+: t.toList → pair? i j = none

/-- A text of characters has no halves. -/
theorem unpaired_ofChars (cs : List Char) : (ofChars cs).Unpaired := by
  intro i j hin
  have hmem : Point.half i ∈ cs.map .char := hin.subset (List.mem_cons_self ..)
  obtain ⟨c, -, hc⟩ := List.mem_map.1 hmem
  cases hc

theorem unpaired_ofString (s : String) : (ofString s).Unpaired := by
  have hchars : ofString s = ofChars s.toList := by
    rw [← toList_inj, toList_ofString]
    rfl
  rw [hchars]
  exact unpaired_ofChars s.toList

theorem paired_of_unpaired {t : Text} (h : t.Unpaired) : t.paired = t := by
  rw [paired, Json.joined_eq_self h, ofList_toList]

@[simp] theorem paired_ofString (s : String) : (ofString s).paired = ofString s :=
  paired_of_unpaired (unpaired_ofString s)

@[simp] theorem paired_paired (t : Text) : t.paired.paired = t.paired := by
  have hunits := Json.joined_inj.2 (Json.flatMap_unitsOf_joined t.toList)
  rw [paired, paired, toList_ofList, hunits]

end Text

namespace Json

open Display (hex)
open Text (joined)

/-! ## Code points -/

/-- An escape of one letter is read as its character. -/
theorem units_letter {letter c : Char} (hu : letter ≠ 'u')
    (h : Reader.simpleEscape? letter = some c) (rest : List Char) :
    Reader.units ('\\' :: letter :: rest)
      = (Reader.units rest).map fun (us, r) => (.char c :: us, r) := by
  rw [Reader.units, h]
  · cases Reader.units rest <;> rfl
  · rintro a b c d r heq
    exact absurd heq hu

/-- A character that needs no escape is read as itself. -/
theorem units_plain {c : Char} (hquote : c ≠ '"') (hslash : c ≠ '\\') (hcontrol : 0x20 ≤ c.toNat)
    (rest : List Char) :
    Reader.units (c :: rest) = (Reader.units rest).map fun (us, r) => (.char c :: us, r) := by
  have hgood : (decide (c.toNat < 0x20) || decide (c = '\\')) = false := by
    simp [hslash, hcontrol]
  rw [Reader.units, hgood]
  · cases Reader.units rest <;> rfl
  · exact hquote
  · rintro a b c d r heq
    exact absurd heq hslash
  · rintro c r heq
    exact absurd heq hslash

/-- The characters that are written by a letter, with their letters. -/
def letters : List (Char × Char) :=
  [('"', '"'), ('\\', '\\'), ('\n', 'n'), ('\r', 'r'), ('\t', 't'), ('\x08', 'b'), ('\x0c', 'f')]

theorem escaped_letter : ∀ e ∈ letters, escaped e.1 = ['\\', e.2] ∧ e.2 ≠ 'u' ∧
    Reader.simpleEscape? e.2 = some e.1 ∧ e.1.toNat < 0x10000 := by decide

/-- The others are written as they are if they can be printed, or else by their code units. -/
theorem escaped_of_no_letter {c : Char} (h : c ∉ letters.map Prod.fst) :
    escaped c = if ' ' ≤ c && c ≤ '~' then [c]
      else if c.toNat < 0x10000 then unitEscape c.toNat
      else unitEscape (0xd800 + (c.toNat - 0x10000) / 0x400)
        ++ unitEscape (0xdc00 + (c.toNat - 0x10000) % 0x400) := by
  simp only [letters, List.map_cons, List.map_nil, List.mem_cons, List.not_mem_nil, or_false,
    not_or] at h
  obtain ⟨hquote, hslash, hn, hr, ht, hb, hf⟩ := h
  rw [escaped, if_neg hquote, if_neg hslash, if_neg hn, if_neg hr, if_neg ht, if_neg hb, if_neg hf]

/-- **A written character is read as its units.** -/
theorem units_escaped (c : Char) (rest : List Char) :
    Reader.units (escaped c ++ rest)
      = (Reader.units rest).map fun (us, r) => (unitsOf (.char c) ++ us, r) := by
  by_cases hletter : c ∈ letters.map Prod.fst
  · obtain ⟨⟨c, letter⟩, he, rfl⟩ := List.mem_map.1 hletter
    obtain ⟨hescaped, hu, hsimple, hsmall⟩ := escaped_letter _ he
    rw [hescaped, unitsOf, if_pos hsmall]
    exact units_letter hu hsimple rest
  rw [escaped_of_no_letter hletter, unitsOf]
  by_cases hprintable : (' ' ≤ c && c ≤ '~' : Bool) = true
  · have hrange : ' ' ≤ c ∧ c ≤ '~' := by simpa using hprintable
    have hsmall : c.toNat < 0x10000 :=
      Nat.lt_of_le_of_lt (show c.toNat ≤ '~'.toNat from hrange.2) (by decide)
    rw [if_pos hprintable, if_pos hsmall]
    have hquote : c ≠ '"' := fun h => hletter (h ▸ by decide)
    have hslash : c ≠ '\\' := fun h => hletter (h ▸ by decide)
    exact units_plain hquote hslash hrange.1 rest
  rw [if_neg hprintable]
  split
  · have hunit := units_unitEscape ‹_› rest
    rwa [show Point.ofNat c.toNat = .char c from Point.ofNat_toNat (.char c)] at hunit
  · have hrange := Point.toNat_char c
    rw [List.append_assoc, units_unitEscape (by omega), units_unitEscape (by omega), ofNat_high,
      ofNat_low]
    cases Reader.units rest <;> rfl

/-- **A written code point is read as its units.** -/
theorem units_escapedPoint (p : Point) (rest : List Char) :
    Reader.units (escapedPoint p ++ rest)
      = (Reader.units rest).map fun (us, r) => (unitsOf p ++ us, r) := by
  cases p with
  | char c => exact units_escaped c rest
  | half i =>
    rw [escapedPoint, units_unitEscape (by omega), Point.ofNat_half i.isLt]
    rfl

/-! ## Texts -/

/-- The code points between quotes are read back as their units. -/
theorem units_flatMap (ps : List Point) (rest : List Char) :
    Reader.units (ps.flatMap escapedPoint ++ '"' :: rest) = some (ps.flatMap unitsOf, rest) := by
  induction ps with
  | nil => rfl
  | cons p ps ih =>
    rw [List.flatMap_cons, List.append_assoc, units_escapedPoint, ih]
    rfl

/-- **A text in quotes is read back** with its pairs joined, whatever its code points are. -/
theorem text_quotedText (s : Text) (rest : List Char) :
    ∃ body, quotedText s ++ rest = '"' :: body ∧
      Reader.text body = .ok (s.paired, rest) := by
  refine ⟨s.toList.flatMap escapedPoint ++ '"' :: rest, by simp [quotedText], ?_⟩
  rw [Reader.text, units_flatMap]
  simp only [joined_unitsOf, Text.paired]

/-- A code point is written by its units. -/
theorem escapedPoint_eq (p : Point) : escapedPoint p = (unitsOf p).flatMap escapedPoint := by
  cases p with
  | half i => simp [unitsOf]
  | char c =>
    by_cases hsmall : c.toNat < 0x10000
    · simp [unitsOf, hsmall]
    · have hletter : c ∉ letters.map Prod.fst := by
        intro h
        obtain ⟨e, he, rfl⟩ := List.mem_map.1 h
        exact hsmall (escaped_letter e he).2.2.2
      have hprintable : ¬ (' ' ≤ c && c ≤ '~' : Bool) = true := by
        intro h
        have hrange : ' ' ≤ c ∧ c ≤ '~' := by simpa using h
        exact hsmall (Nat.lt_of_le_of_lt (show c.toNat ≤ '~'.toNat from hrange.2) (by decide))
      have hlow : 0xd800 + (lowHalf c.toNat).val = 0xdc00 + (c.toNat - 0x10000) % 0x400 := by
        rw [val_lowHalf]
        omega
      rw [escapedPoint, escaped_of_no_letter hletter, if_neg hprintable, if_neg hsmall, unitsOf,
        if_neg hsmall, List.flatMap_cons, List.flatMap_cons, escapedPoint, escapedPoint,
        val_highHalf, hlow]
      simp

/-- **Texts are written alike exactly if they are one text with their pairs joined.** -/
theorem quotedText_inj {s t : Text} :
    quotedText s = quotedText t ↔ s.paired = t.paired := by
  rw [Text.paired, Text.paired, Text.ofList_inj]
  constructor
  · intro h
    have hbody : s.toList.flatMap escapedPoint ++ ['"'] = t.toList.flatMap escapedPoint ++ ['"'] :=
      (List.cons.inj h).2
    have hread := units_flatMap s.toList []
    rw [hbody, units_flatMap t.toList []] at hread
    exact joined_inj.2 (Prod.mk.inj (Option.some.inj hread)).1.symm
  · intro h
    have hunits := joined_inj.1 h
    have hwritten : ∀ ps : List Point, ps.flatMap escapedPoint
        = (ps.flatMap unitsOf).flatMap escapedPoint := by
      intro ps
      rw [List.flatMap_assoc]
      exact congrArg (ps.flatMap ·) (funext escapedPoint_eq)
    rw [quotedText, quotedText, hwritten, hunits, ← hwritten]

end Json

end LintBundle
