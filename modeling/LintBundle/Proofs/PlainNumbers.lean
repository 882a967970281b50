import LintBundle.Proofs.Rounding
import LintBundle.Proofs.Schema
import LintBundle.Proofs.WrittenNumbers
import Mathlib.Data.List.TakeWhile

/-!
# Proofs/PlainNumbers — JSON numbers as plain scalars

    [-] whole                      ──▸ int       the number it is in JSON
    [-] whole . part [e (+|-) n]   ──▸ float     the number it is in JSON
    any other exponent             ──▸ str       its own text

A plain scalar is tagged by its spelling.  A number is spelled the same in JSON and in YAML 1.1 but
for its exponent, which in YAML needs a fraction in front of it and a sign (`Written.isPlain`).  So
the tag of a JSON number is that of a number if it is plain, and else that of a text
(`ofSpelling_text`), and a plain number reads as it does in JSON (`read_text`).
-/

namespace LintBundle.Json.Written

open Yaml (Tag)

variable {x : Written}

/-- Whether an exponent, if there is one, has a fraction in front of it and a sign. -/
def isPlain (x : Written) : Bool := x.exponent.all fun e => !x.part.isEmpty && e.sign.isSome

/-! ## The characters of a number -/

/-- The characters that numbers are written with. -/
def numeralChars : List Char := "0123456789+-.eE".toList

theorem isDigit_iff {c : Char} : c.isDigit = true ↔ '0' ≤ c ∧ c ≤ '9' := by
  rw [Char.isDigit, Bool.and_eq_true, decide_eq_true_iff, decide_eq_true_iff]
  rfl

theorem digitChars_mem {ds : List ℕ} (hlt : ∀ d ∈ ds, d < 10) :
    ∀ c ∈ digitChars ds, c.isDigit = true := by
  intro c hc
  obtain ⟨d, hd, rfl⟩ := List.mem_map.1 hc
  exact isDigit_iff.2 (digit_range (hlt d hd))

/-- What holds of the characters of numbers holds of those of each number. -/
theorem text_forall (h : x.WellFormed) {p : Char → Bool} (hp : numeralChars.all p = true) :
    ∀ c ∈ x.text, p c = true := by
  have hall := List.all_eq_true.1 hp
  have digits : ∀ {ds : List ℕ}, (∀ d ∈ ds, d < 10) → ∀ c ∈ digitChars ds, p c = true := by
    intro ds hlt c hc
    have hmem := Yaml.mem_digits (digitChars_mem hlt c hc)
    exact hall c (List.mem_append_left "+-.eE".toList hmem)
  have hpart : ∀ c ∈ partText x.part, p c = true := by
    rw [partText]
    split
    · exact List.forall_mem_nil _
    · exact List.forall_mem_cons.2 ⟨hall _ (by decide), digits h.part⟩
  have hexponent : ∀ c ∈ exponentText x.exponent, p c = true := by
    cases he : x.exponent with
    | none => exact List.forall_mem_nil _
    | some e =>
      refine List.forall_mem_cons.2
        ⟨?_, List.forall_mem_append.2 ⟨?_, digits (h.exponent e he).digits⟩⟩
      · cases e.capital <;> exact hall _ (by decide)
      · match e.sign with
        | none => exact List.forall_mem_nil _
        | some true => exact List.forall_mem_singleton.2 (hall _ (by decide))
        | some false => exact List.forall_mem_singleton.2 (hall _ (by decide))
  have hbody : ∀ c ∈ x.body, p c = true := List.forall_mem_append.2
    ⟨digits h.whole.digits, List.forall_mem_append.2 ⟨hpart, hexponent⟩⟩
  rw [text]
  split
  · exact List.forall_mem_cons.2 ⟨hall _ (by decide), hbody⟩
  · exact hbody

theorem body_forall (h : x.WellFormed) {p : Char → Bool} (hp : numeralChars.all p = true) :
    ∀ c ∈ x.body, p c = true := by
  intro c hc
  refine text_forall h hp c ?_
  rw [text]
  split
  · exact List.mem_cons_of_mem _ hc
  · exact hc

/-- No other character is in a number. -/
theorem notMem_text (h : x.WellFormed) {c : Char} (hc : c ∉ numeralChars) : c ∉ x.text := by
  have hp : numeralChars.all (fun d => decide (d ≠ c)) = true := by
    refine List.all_eq_true.2 fun d hd => decide_eq_true ?_
    rintro rfl
    exact hc hd
  intro hmem
  exact absurd rfl (of_decide_eq_true (text_forall h hp c hmem))

/-- A number begins with a digit, its sign apart. -/
theorem body_head (h : x.WellFormed) : ∃ c r, x.body = c :: r ∧ c.isDigit = true := by
  obtain ⟨c, r, hform, hrange⟩ := digitChars_head h.whole.nonempty h.whole.digits
  exact ⟨c, _, by rw [body, hform]; rfl, isDigit_iff.2 hrange⟩

theorem digit_ne {c d : Char} (hc : c.isDigit = true) (hd : d.isDigit = false) : c ≠ d := by
  rintro rfl
  rw [hc] at hd
  cases hd

/-- The sign of a number is split off. -/
theorem sign_text (h : x.WellFormed) : Reading.sign x.text = (x.negative, x.body) ∧
    Tag.unsigned x.text = x.body := by
  obtain ⟨c, r, hbody, hc⟩ := body_head h
  have hminus := digit_ne hc (d := '-') rfl
  have hplus := digit_ne hc (d := '+') rfl
  cases hsign : x.negative with
  | true =>
    rw [text, if_pos hsign]
    exact ⟨rfl, rfl⟩
  | false =>
    rw [text, if_neg (by rw [hsign]; decide), hbody]
    constructor
    · simp [Reading.sign, hminus, hplus]
    · simp [Tag.unsigned, hminus, hplus]

/-! ## The tag of a number -/

/-- What stands behind the whole part of a number. -/
def tail (x : Written) : List Char := partText x.part ++ exponentText x.exponent

/-- Nothing stands there, or a mark that is no digit. -/
theorem tail_head (x : Written) : x.isInt = true ∧ x.tail = [] ∨
    x.isInt = false ∧ ∃ c r, x.tail = c :: r ∧ c ∈ ['.', 'e', 'E'] := by
  obtain ⟨negative, whole, part, e⟩ := x
  cases part with
  | nil =>
    cases e with
    | none => exact .inl ⟨rfl, rfl⟩
    | some e =>
      refine .inr ⟨rfl, _, _, rfl, ?_⟩
      cases e.capital <;> decide
  | cons d ds => exact .inr ⟨rfl, _, _, rfl, by decide⟩

/-- A text without a colon has no sixtieths. -/
theorem isSexagesimal_eq_false {leading : Char → Bool} {cs : List Char} (h : ':' ∉ cs) :
    Tag.isSexagesimal leading cs = false := by
  rw [Tag.isSexagesimal, Text.split_of_notMem h]
  cases cs <;> rfl

theorem isDigitOr_digitChars {ds : List ℕ} (hlt : ∀ d ∈ ds, d < 10) :
    ∀ c ∈ digitChars ds, Tag.isDigitOr_ c = true := fun c hc => by
  rw [Tag.isDigitOr_, digitChars_mem hlt c hc]
  rfl

/-- Digits with something behind them are digits alone if nothing stands there. -/
theorem all_digits {ds : List ℕ} (hlt : ∀ d ∈ ds, d < 10) (x : Written) :
    (digitChars ds ++ x.tail).all Tag.isDigitOr_ = x.isInt := by
  rw [List.all_append, List.all_eq_true.2 (isDigitOr_digitChars hlt), Bool.true_and]
  rcases x.tail_head with ⟨hint, htail⟩ | ⟨hint, c, r, htail, hc⟩
  · rw [hint, htail]
    rfl
  · have hmarks : ['.', 'e', 'E'].all (fun c => !Tag.isDigitOr_ c) = true := by decide
    have hmark : Tag.isDigitOr_ c = false := by simpa using List.all_eq_true.1 hmarks c hc
    rw [hint, htail, List.all_cons, hmark, Bool.false_and]

/-- A zero is a whole number if nothing stands behind it. -/
theorem isInt_zero (x : Written) {cs : List Char} (h : Tag.unsigned cs = '0' :: x.tail) :
    Tag.isInt cs = x.isInt := by
  rw [Tag.isInt, h]
  rcases x.tail_head with ⟨hint, htail⟩ | ⟨hint, c, r, htail, hc⟩
  · rw [htail, hint]
    rfl
  · simp only [List.mem_cons, List.not_mem_nil, or_false] at hc
    rw [htail, hint]
    rcases hc with rfl | rfl | rfl <;> rfl

/-- Any other digit begins a whole number if digits stand behind it. -/
theorem isInt_nonzero {cs r : List Char} {c : Char} (h : Tag.unsigned cs = c :: r) (hzero : c ≠ '0')
    (hnonzero : Tag.isNonzeroDigit c = true) (hcolon : ':' ∉ c :: r) :
    Tag.isInt cs = r.all Tag.isDigitOr_ := by
  rw [Tag.isInt, h]
  split
  · rename_i heq
    exact absurd (List.cons.inj heq).1 hzero
  · rename_i heq
    exact absurd (List.cons.inj heq).1 hzero
  · rename_i heq
    exact absurd (List.cons.inj heq).1 hzero
  · rename_i heq
    obtain ⟨rfl, rfl⟩ := List.cons.inj heq
    rw [hnonzero, isSexagesimal_eq_false hcolon, Bool.or_false, Bool.true_and]
  · rename_i heq
    cases heq

/-- The spellings of whole numbers are those of JSON. -/
theorem isInt_text (h : x.WellFormed) : Tag.isInt x.text = x.isInt := by
  have hcolon : ':' ∉ x.body := fun hmem => absurd rfl <| of_decide_eq_true
    (body_forall h (p := fun d => decide (d ≠ ':')) (by decide) ':' hmem)
  have hunsigned := (sign_text h).2
  obtain ⟨d, ds, hwhole⟩ := List.exists_cons_of_ne_nil h.whole.nonempty
  have hbody : x.body = Char.ofNat ('0'.toNat + d) :: (digitChars ds ++ x.tail) := by
    rw [body, hwhole]
    rfl
  have hlt := hwhole ▸ h.whole.digits
  rw [hbody] at hcolon hunsigned
  by_cases hd : d = 0
  · subst hd
    obtain rfl : ds = [] := by simpa [hwhole] using h.whole.zero (by rw [hwhole]; rfl)
    exact isInt_zero x hunsigned
  · have hfirst : ∀ d < 10, d ≠ 0 → Char.ofNat ('0'.toNat + d) ≠ '0' ∧
        Tag.isNonzeroDigit (Char.ofNat ('0'.toNat + d)) = true := by decide
    obtain ⟨hzero, hnonzero⟩ := hfirst d (hlt d (List.mem_cons_self ..)) hd
    rw [isInt_nonzero hunsigned hzero hnonzero hcolon]
    exact all_digits (fun d' hd' => hlt d' (List.mem_cons_of_mem _ hd')) x

/-- An exponent has to have a sign. -/
theorem isExponent_text {e : Exponent} (h : e.WellFormed) :
    Tag.isExponent e.text = e.sign.isSome := by
  obtain ⟨capital, sign, digits⟩ := e
  obtain ⟨c, r, hform, hrange⟩ := digitChars_head h.nonempty h.digits
  have hmark : ∀ capital : Bool, ((if capital then 'E' else 'e') = 'e'
      || (if capital then 'E' else 'e') = 'E' : Bool) = true := by decide
  have hrun : Tag.isRun Char.isDigit (digitChars digits) = true := by
    have hall : (digitChars digits).all Char.isDigit = true :=
      List.all_eq_true.2 (digitChars_mem h.digits)
    rw [Tag.isRun, hall, hform]
    rfl
  cases sign with
  | some negative =>
    cases negative
    all_goals
      change (_ && true && Tag.isRun _ (digitChars digits)) = true
      rw [hrun, hmark capital]
      rfl
  | none =>
    have hminus := digit_ne (isDigit_iff.2 hrange) (d := '-') rfl
    have hplus := digit_ne (isDigit_iff.2 hrange) (d := '+') rfl
    change Tag.isExponent (_ :: digitChars digits) = false
    rw [hform, Tag.isExponent]
    simp [hminus, hplus]

theorem isFraction_digits {ds : List ℕ} (hlt : ∀ d ∈ ds, d < 10) {e : Option Exponent}
    (he : ∀ e' ∈ e, e'.WellFormed) :
    Tag.isFraction (digitChars ds ++ exponentText e) = e.all fun e => e.sign.isSome := by
  rw [Tag.isFraction, List.dropWhile_append_of_pos (isDigitOr_digitChars hlt)]
  cases e with
  | none => rfl
  | some e =>
    have hmark : ∀ capital : Bool, Tag.isDigitOr_ (if capital then 'E' else 'e') = false := by
      decide
    have htext : e.text.dropWhile Tag.isDigitOr_ = e.text := by
      rw [Exponent.text, List.dropWhile_cons_of_neg (by rw [hmark]; decide)]
    change Tag.isExponent (e.text.dropWhile Tag.isDigitOr_) = e.sign.isSome
    rw [htext, isExponent_text (he e rfl)]

/-- There is no point in an exponent. -/
theorem notMem_exponentText {e : Option Exponent} (he : ∀ e' ∈ e, e'.WellFormed) :
    '.' ∉ exponentText e := by
  cases e with
  | none => exact List.not_mem_nil
  | some e =>
    have hdigits : '.' ∉ digitChars e.digits := fun hmem =>
      absurd (digitChars_mem (he e rfl).digits '.' hmem) (by decide)
    have hmark : ∀ capital : Bool, '.' ≠ (if capital then 'E' else 'e') := by decide
    have hsign : ∀ s, '.' ∉ Exponent.signText s := by
      rintro (_ | _ | _) <;> decide
    change '.' ∉ _ :: (Exponent.signText e.sign ++ digitChars e.digits)
    simp [hmark, hsign, hdigits]

/-- A number is looked through up to its point. -/
theorem isFloat_point (h : x.WellFormed) :
    (x.body.dropWhile (fun c => decide (c ≠ '.')) = [] → Tag.isFloat x.text = false) ∧
    ∀ r, x.body.dropWhile (fun c => decide (c ≠ '.')) = '.' :: r →
      Tag.isFloat x.text
        = (((x.body.takeWhile (fun c => decide (c ≠ '.'))).all Tag.isDigitOr_ && Tag.isFraction r)
          || (Tag.isSexagesimal Char.isDigit (x.body.takeWhile (fun c => decide (c ≠ '.')))
            && r.all Tag.isDigitOr_)) := by
  obtain ⟨c, cs, hbody, hc⟩ := body_head h
  have hne : c ≠ '.' := digit_ne hc rfl
  unfold Tag.isFloat
  rw [(sign_text h).2, hbody]
  refine ⟨fun hrest => ?_, fun r hrest => ?_⟩
  · simp only [hrest]
  · simp only [hrest, hc, Bool.true_and]

/-- The spellings of numbers with a fraction are those of plain numbers that have one. -/
theorem isFloat_text (h : x.WellFormed) :
    Tag.isFloat x.text = (!x.part.isEmpty && x.exponent.all fun e => e.sign.isSome) := by
  have hcolon : ':' ∉ digitChars x.whole := fun hmem =>
    absurd (digitChars_mem h.whole.digits ':' hmem) (by decide)
  have hwhole : ∀ c ∈ digitChars x.whole, decide (c ≠ '.') = true := fun c hc =>
    decide_eq_true (digit_ne (digitChars_mem h.whole.digits c hc) rfl)
  obtain ⟨hpointless, hpoint⟩ := isFloat_point h
  rw [body, List.dropWhile_append_of_pos hwhole] at hpointless hpoint
  cases hpart : x.part with
  | nil =>
    rw [hpart] at hpointless
    refine hpointless (List.dropWhile_eq_nil_iff.2 fun c hc => decide_eq_true ?_)
    rintro rfl
    exact notMem_exponentText h.exponent hc
  | cons d ds =>
    have hdigits := List.all_eq_true.2 (isDigitOr_digitChars h.whole.digits)
    have hfraction := isFraction_digits (hpart ▸ h.part) h.exponent
    rw [hpart] at hpoint
    have htake : (partText (d :: ds) ++ exponentText x.exponent).takeWhile
        (fun c => decide (c ≠ '.')) = [] := rfl
    rw [hpoint (digitChars (d :: ds) ++ exponentText x.exponent) rfl,
      List.takeWhile_append_of_pos hwhole, htake, List.append_nil, hdigits, hfraction,
      isSexagesimal_eq_false hcolon]
    simp

/-- Texts that begin with a digit or a minus sign are none of some words. -/
theorem contains_eq_false {words : List String} {cs : List Char}
    (hwords : words.all (fun w => w.toList.head?.all fun c => !c.isDigit && c ≠ '-') = true)
    {c : Char} {r : List Char} (hcs : cs = c :: r) (hc : c.isDigit = true ∨ c = '-') :
    words.contains (String.ofList cs) = false := by
  by_contra hcontains
  obtain ⟨w, hw, hform⟩ := List.mem_map.1 (Yaml.word_mem (Bool.not_eq_false _ ▸ hcontains))
  have hword := List.all_eq_true.1 hwords w hw
  rw [hform, hcs, List.head?_cons, Option.all_some, Bool.and_eq_true] at hword
  rcases hc with hc | rfl
  · rw [hc] at hword
    cases hword.1
  · exact absurd hword.2 (by decide)

/-- **The tag of a number**: one without fraction and exponent is whole, a plain one has a fraction,
and any other one is a text. -/
theorem ofSpelling_text (h : x.WellFormed) :
    Tag.ofSpelling x.text = if x.isInt then .int else if x.isPlain then .float else .str := by
  have hbreak : Tag.beforeBreak x.text = x.text := by
    rw [Tag.beforeBreak, if_neg]
    intro hlast
    exact notMem_text h (by decide) (List.mem_of_getLast? hlast)
  obtain ⟨c, r, htext, hc⟩ : ∃ c r, x.text = c :: r ∧ (c.isDigit = true ∨ c = '-') := by
    obtain ⟨c, r, hbody, hc⟩ := body_head h
    rw [text]
    split
    · exact ⟨'-', _, rfl, .inr rfl⟩
    · exact ⟨c, r, hbody, .inl hc⟩
  have hne : ∀ {d : Char} {l : List Char}, d.isDigit = false → d ≠ '-' → x.text ≠ d :: l := by
    rintro d l hd hminus heq
    obtain ⟨rfl, -⟩ := List.cons.inj (htext.symm.trans heq)
    rcases hc with hc | hc
    · exact absurd hc (by rw [hd]; decide)
    · exact hminus hc
  have hbool : Tag.isBool x.text = false := contains_eq_false (by decide) htext hc
  have hnull : Tag.isNull x.text = false := contains_eq_false (by decide) htext hc
  have hfloat : (!x.part.isEmpty && x.exponent.all fun e => e.sign.isSome)
      = (!x.isInt && x.isPlain) := by
    obtain ⟨negative, whole, part, e⟩ := x
    cases part <;> cases e <;> simp [isInt, isPlain]
  rw [Tag.ofSpelling, hbreak]
  simp only [hbool, hnull, isFloat_text h, isInt_text h, hfloat, hne (d := '<') rfl (by decide),
    hne (d := '=') rfl (by decide), hne (d := '!') rfl (by decide), hne (d := '&') rfl (by decide),
    hne (d := '*') rfl (by decide)]
  cases x.isInt <;> cases x.isPlain <;> rfl

/-! ## The value of a number -/

/-- A text of such characters has no blanks around it. -/
theorem strip_eq {cs : List Char} (h : ∀ c ∈ cs, c ∈ numeralChars) : Reading.strip cs = cs := by
  have hall : numeralChars.all (fun c => !isBlank c && !isSpace c && decide (c.toNat < 128)) =
      true := by
    decide
  have hgap : ∀ {p : Char → Bool}, numeralChars.all (fun c => !p c) = true → ∀ {l : List Char},
      (∀ c ∈ l, c ∈ numeralChars) → l.dropWhile p = l := by
    intro p hp l hl
    refine List.dropWhile_eq_self_iff.2 fun hpos => ?_
    have hno := List.all_eq_true.1 hp _ (hl _ (List.getElem_mem hpos))
    simpa using hno
  have hstrip : ∀ {p : Char → Bool}, numeralChars.all (fun c => !p c) = true →
      ((cs.dropWhile p).reverse.dropWhile p).reverse = cs := by
    intro p hp
    rw [hgap hp h, hgap hp fun c hc => h c (List.mem_reverse.1 hc), List.reverse_reverse]
  rw [Reading.strip]
  split
  · exact hstrip (by decide)
  · exact hstrip (by decide)

theorem digitValue?_digit : ∀ d < 10, digitValue? (Char.ofNat ('0'.toNat + d)) = some d ∧
    digitValueIn? 10 (Char.ofNat ('0'.toNat + d)) = some d := by decide

theorem digitChars_numeralChars {ds : List ℕ} (hlt : ∀ d ∈ ds, d < 10) :
    ∀ c ∈ digitChars ds, c ∈ numeralChars := fun c hc =>
  List.mem_append_left "+-.eE".toList (Yaml.mem_digits (digitChars_mem hlt c hc))

theorem mapM_digitChars {ds : List ℕ} (hlt : ∀ d ∈ ds, d < 10) :
    (digitChars ds).mapM (digitValueIn? 10) = some ds := by
  induction ds with
  | nil => rfl
  | cons d ds ih =>
    obtain ⟨hd, hlt⟩ := List.forall_mem_cons.1 hlt
    change (_ :: digitChars ds).mapM (digitValueIn? 10) = _
    rw [List.mapM_cons, (digitValue?_digit d hd).2, ih hlt]
    rfl

/-- Digits that begin with no zero are a whole number in decimal. -/
theorem int?_digitChars {ds : List ℕ} (hne : ds ≠ []) (hlt : ∀ d ∈ ds, d < 10)
    (hzero : (digitChars ds).head? ≠ some '0') (hlength : ds.length ≤ decimalDigitLimit) :
    Reading.int? 10 (digitChars ds) = some (Reading.ofDigits 10 ds : ℤ) := by
  have hsign : Reading.sign (digitChars ds) = (false, digitChars ds) := by
    have h := sign_signText none hne hlt []
    rwa [List.append_nil] at h
  have hmark : Reading.dropMark 10 (digitChars ds) = digitChars ds := by
    unfold Reading.dropMark
    split
    · rename_i heq
      rw [heq] at hzero
      exact absurd rfl hzero
    · rfl
  have hdigits : Reading.digits? 10 (digitChars ds) = some ds := by
    obtain ⟨c, r, hform, -⟩ := digitChars_head hne hlt
    have hmap := mapM_digitChars hlt
    rw [hform] at hmap ⊢
    exact hmap
  rw [Reading.int?, strip_eq (digitChars_numeralChars hlt), hsign]
  simp only [hmark, hdigits, Option.bind_eq_bind, Option.bind_some]
  simp [hlength]

/-- The digits of a whole part are the whole number they are in JSON. -/
theorem magnitude?_whole {whole : List ℕ} (h : Reader.IsWhole whole)
    (hlength : whole.length ≤ decimalDigitLimit) :
    Tag.magnitude? (digitChars whole) = some (Reading.ofDigits 10 whole : ℤ) := by
  obtain ⟨hne, hlt, hzero⟩ := h
  obtain ⟨d, ds, rfl⟩ := List.exists_cons_of_ne_nil hne
  by_cases hd : d = 0
  · subst hd
    obtain rfl : ds = [] := by simpa using hzero rfl
    rfl
  · have hfirst : ∀ d < 10, d ≠ 0 → Char.ofNat ('0'.toNat + d) ≠ '0' := by decide
    have hchar := hfirst d (hlt d (List.mem_cons_self ..)) hd
    have hcolon : (digitChars (d :: ds)).contains ':' = false := by
      by_contra hmem
      exact absurd (digitChars_mem hlt ':' (by simpa using hmem)) (by decide)
    have hint := int?_digitChars hne hlt (fun h => hchar (Option.some.inj h)) hlength
    unfold Tag.magnitude?
    split
    · rename_i heq
      exact absurd (List.cons.inj heq).1 hchar
    · rename_i heq
      exact absurd (List.cons.inj heq).1 hchar
    · rename_i heq
      exact absurd (List.cons.inj heq).1 hchar
    · rename_i heq
      exact absurd (List.cons.inj heq).1 hchar
    · rw [hcolon, if_neg (by decide), hint]

theorem filter_text (h : x.WellFormed) : x.text.filter (fun c => decide (c ≠ '_')) = x.text :=
  List.filter_eq_self.2 (text_forall h (by decide))

theorem body_ne_nil (h : x.WellFormed) : x.body ≠ [] := by
  obtain ⟨c, r, hbody, -⟩ := body_head h
  rw [hbody]
  exact List.cons_ne_nil c r

/-- **A whole number is read as in JSON.** -/
theorem readInt_text (h : x.WellFormed) (hint : x.isInt = true) :
    Tag.readInt x.text = .ok (.int x.int) := by
  have hbody : x.body = digitChars x.whole := by
    rcases x.tail_head with ⟨-, htail⟩ | ⟨hno, -⟩
    · rw [body, ← tail, htail, List.append_nil]
    · rw [hint] at hno
      cases hno
  have hempty : (digitChars x.whole).isEmpty = false := by
    rw [← hbody, List.isEmpty_eq_false_iff]
    exact body_ne_nil h
  have hmagnitude := magnitude?_whole h.whole (h.short hint)
  rw [Tag.readInt, filter_text h, (sign_text h).1, hbody]
  simp only [hempty, hmagnitude]
  rfl

/-! ## The value of a number with a fraction -/

/-- The number in lower case. -/
def lower (x : Written) : Written :=
  { x with exponent := x.exponent.map fun e => { e with capital := false } }

theorem lower_digitChars {ds : List ℕ} (hlt : ∀ d ∈ ds, d < 10) :
    Reading.lower (digitChars ds) = digitChars ds := by
  have hall : ∀ d < 10, (Char.ofNat ('0'.toNat + d)).toLower = Char.ofNat ('0'.toNat + d) :=
      by decide
  rw [Reading.lower, digitChars, List.map_map]
  exact List.map_congr_left fun d hd => hall d (hlt d hd)

@[simp] theorem lower_append (a b : List Char) :
    Reading.lower (a ++ b) = Reading.lower a ++ Reading.lower b := List.map_append

theorem lower_body (h : x.WellFormed) : Reading.lower x.body = x.lower.body := by
  have hpart : Reading.lower (partText x.part) = partText x.part := by
    rw [partText]
    split
    · rfl
    · exact congrArg _ (lower_digitChars h.part)
  have hexponent : Reading.lower (exponentText x.exponent) = exponentText x.lower.exponent := by
    rw [lower]
    cases he : x.exponent with
    | none => rfl
    | some e =>
      obtain ⟨capital, sign, digits⟩ := e
      have hmark : (if capital then 'E' else 'e').toLower = 'e' := by cases capital <;> rfl
      have hsign : Reading.lower (Exponent.signText sign) = Exponent.signText sign := by
        rcases sign with _ | _ | _ <;> rfl
      have hdigits : Reading.lower (digitChars digits) = digitChars digits :=
        lower_digitChars (h.exponent _ he).digits
      change Reading.lower (_ :: (Exponent.signText sign ++ digitChars digits)) = _
      rw [Reading.lower, List.map_cons, hmark]
      change 'e' :: Reading.lower (Exponent.signText sign ++ digitChars digits) = _
      rw [lower_append, hsign, hdigits]
      rfl
  rw [body, lower_append, lower_append, lower_digitChars h.whole.digits, hpart, hexponent]
  rfl

theorem WellFormed.lower (h : x.WellFormed) : x.lower.WellFormed where
  whole := h.whole
  part := h.part
  exponent e he := by
    obtain ⟨e', he', rfl⟩ := Option.map_eq_some_iff.1 he
    exact ⟨(h.exponent e' he').nonempty, (h.exponent e' he').digits⟩
  short hint := h.short (by
    obtain ⟨negative, whole, part, e⟩ := x
    cases e with
    | none => exact hint
    | some e => simp [Written.lower, isInt] at hint)

@[simp] theorem float_lower (x : Written) (negative : Bool) :
    x.lower.float negative = x.float negative := by
  obtain ⟨_, whole, part, e⟩ := x
  cases e <;> rfl

/-- Digits are read up to what is no digit of any script. -/
theorem readingSpan_digitChars {ds : List ℕ} (hlt : ∀ d ∈ ds, d < 10) {rest : List Char}
    (hrest : ∀ c ∈ rest.head?, digitValue? c = none) :
    Reading.spanDigits (digitChars ds ++ rest) = (ds, rest) := by
  induction ds with
  | nil =>
    cases rest with
    | nil => rfl
    | cons c rest =>
      change Reading.spanDigits (c :: rest) = _
      rw [Reading.spanDigits, hrest c rfl]
  | cons d ds ih =>
    obtain ⟨hd, hlt⟩ := List.forall_mem_cons.1 hlt
    change Reading.spanDigits (_ :: (digitChars ds ++ rest)) = _
    rw [Reading.spanDigits, (digitValue?_digit d hd).1, ih hlt]

/-- An exponent is read as in JSON. -/
theorem exponent?_exponentText {e : Option Exponent} (he : ∀ e' ∈ e, e'.WellFormed) :
    Reading.exponent? (exponentText e) = some (e.elim 0 Exponent.value) := by
  cases e with
  | none => rfl
  | some e =>
    obtain ⟨hne, hlt⟩ := he e rfl
    obtain ⟨capital, sign, digits⟩ := e
    have hmark : ((if capital then 'E' else 'e') = 'e' || (if capital then 'E' else 'e') = 'E')
        = true := by cases capital <;> rfl
    have hsign := sign_signText sign hne hlt []
    have hspan : Reading.spanDigits (digitChars digits ++ []) = (digits, []) :=
      readingSpan_digitChars hlt (by simp)
    rw [List.append_nil] at hsign hspan
    change Reading.exponent? (_ :: (Exponent.signText sign ++ digitChars digits)) = _
    rw [Reading.exponent?, if_pos hmark, hsign]
    dsimp only
    rw [hspan]
    dsimp only at hne
    obtain ⟨d, ds, rfl⟩ := List.exists_cons_of_ne_nil hne
    simp [Exponent.value]

theorem exponentText_head (e : Option Exponent) :
    ∀ c ∈ (exponentText e).head?, digitValue? c = none ∧ c ≠ '.' := by
  cases e with
  | none => simp [exponentText]
  | some e =>
    intro c hc
    obtain rfl := Option.some.inj hc
    cases e.capital <;> exact ⟨by decide, by decide⟩

/-- What stands behind the whole part is read as in JSON. -/
theorem fraction?_body (h : x.WellFormed) :
    Reading.fraction? false x.body = some (x.float false) := by
  have hexponent := exponentText_head x.exponent
  have htail : ∀ c ∈ x.tail.head?, digitValue? c = none := by
    intro c hc
    rcases x.tail_head with ⟨-, hnil⟩ | ⟨-, c', r, hform, hmark⟩
    · rw [hnil] at hc
      cases hc
    · rw [hform] at hc
      obtain rfl : c' = c := Option.some.inj hc
      have hmarks : ['.', 'e', 'E'].all (fun c => (digitValue? c).isNone) = true := by decide
      exact Option.isNone_iff_eq_none.1 (List.all_eq_true.1 hmarks c' hmark)
  have hspan : Reading.spanDigits x.body = (x.whole, x.tail) :=
    readingSpan_digitChars h.whole.digits htail
  have hwhole : x.whole.isEmpty = false := List.isEmpty_eq_false_iff.2 h.whole.nonempty
  have hvalue := exponent?_exponentText h.exponent
  rw [Reading.fraction?, hspan, tail]
  dsimp only
  rw [hwhole, Bool.false_and, if_neg (by decide)]
  cases hpart : x.part with
  | nil =>
    simp only [partText, if_true, List.nil_append]
    split
    · rename_i r hform
      rw [hform] at hexponent
      exact absurd rfl (hexponent '.' rfl).2
    · rw [hvalue]
      simp [float, hpart]
  | cons d ds =>
    have hdigits : Reading.spanDigits (digitChars (d :: ds) ++ exponentText x.exponent)
        = (d :: ds, exponentText x.exponent) :=
      readingSpan_digitChars (hpart ▸ h.part) fun c hc => (hexponent c hc).1
    simp only [partText, if_neg (List.cons_ne_nil d ds), List.cons_append, hdigits, hvalue]
    simp [float, hpart]

/-- **The digits, the fraction and the exponent are read as in JSON.** -/
theorem float?_body (h : x.WellFormed) : Reading.float? x.body = some (x.float false) := by
  obtain ⟨c, r, hbody, hc⟩ := body_head h
  obtain ⟨c', r', hlower, hc'⟩ := body_head h.lower
  have hstrip : Reading.strip x.body = x.body := strip_eq fun c hc =>
    of_decide_eq_true (body_forall h (p := fun c => decide (c ∈ numeralChars)) (by decide) c hc)
  have hsign : Reading.sign x.body = (false, x.body) := by
    have hminus := digit_ne hc (d := '-') rfl
    have hplus := digit_ne hc (d := '+') rfl
    rw [hbody]
    simp [Reading.sign, hminus, hplus]
  have hword : ∀ {w : String}, (w.toList.head?.all fun c => !c.isDigit) = true →
      String.ofList (Reading.lower x.body) ≠ w := by
    rintro w hw rfl
    rw [String.toList_ofList, lower_body h, hlower] at hw
    simp [hc'] at hw
  rw [Reading.float?, hstrip, hsign]
  dsimp only
  rw [if_neg (by simp [hword (w := "inf") (by decide), hword (w := "infinity") (by decide)]),
    if_neg (hword (by decide)), fraction?_body h]

theorem neg_ofDecimal (digits : List ℕ) (e : ℤ) :
    (Binary64.ofDecimal false digits e).neg = Binary64.ofDecimal true digits e := by
  rw [Binary64.ofDecimal_withSign true, Binary64.ofDecimal_withSign false]
  cases Binary64.ofDecimal false digits e <;> rfl

/-- **A number with a fraction is read as in JSON.** -/
theorem readFloat_text (h : x.WellFormed) :
    Tag.readFloat x.text = .ok (.float (x.float x.negative)) := by
  obtain ⟨c, r, hbody, hc⟩ := body_head h.lower
  have hall : ¬ x.text.all (fun c => decide (c = '_')) = true := by
    intro hall
    obtain ⟨d, hd⟩ : ∃ d, d ∈ x.text := by
      rw [text]
      split
      · exact ⟨'-', List.mem_cons_self ..⟩
      · exact List.exists_mem_of_ne_nil _ (body_ne_nil h)
    obtain rfl := of_decide_eq_true (List.all_eq_true.1 hall d hd)
    exact notMem_text h (by decide) hd
  have hnumeral : Tag.numeral x.text = (x.negative, x.lower.body) := by
    have hlower : Reading.lower x.text = x.lower.text := by
      rw [text, text, ← lower_body h]
      change _ = if x.negative then '-' :: Reading.lower x.body else Reading.lower x.body
      cases x.negative <;> rfl
    rw [Tag.numeral, filter_text h, hlower, (sign_text h.lower).1]
    rfl
  have hword : ∀ {w : List Char}, (w.head?.all fun c => !c.isDigit) = true → x.lower.body ≠ w := by
    rintro w hw rfl
    rw [hbody] at hw
    simp [hc] at hw
  have hcolon : x.lower.body.contains ':' = false := by
    by_contra hmem
    have hbody := body_forall h.lower (p := fun d => decide (d ≠ ':')) (by decide) ':'
    exact absurd rfl (of_decide_eq_true (hbody (by simpa using hmem)))
  rw [Tag.readFloat, if_neg hall, hnumeral]
  simp only [if_neg (hword (w := ".inf".toList) (by decide)),
    if_neg (hword (w := ".nan".toList) (by decide)), hcolon, float?_body h.lower, float_lower]
  cases x.negative with
  | true => exact congrArg (fun y => Except.ok (Value.float y)) (neg_ofDecimal _ _)
  | false => rfl

/-- **A plain number is read as in JSON.** -/
theorem read_text (h : x.WellFormed) (hplain : x.isPlain = true) :
    (Tag.ofSpelling x.text).read (x.text.map .char) = .ok x.value.toValue := by
  rw [ofSpelling_text h, value]
  cases hint : x.isInt with
  | true =>
    rw [if_pos rfl, if_pos rfl, Tag.read, Text.shapes_map_char]
    exact readInt_text h hint
  | false =>
    rw [hplain, if_neg (by decide), if_pos rfl, if_neg (by decide), Tag.read, Text.shapes_map_char]
    exact readFloat_text h

/-- **Any other exponent makes it a text.** -/
theorem read_text_of_not_plain (h : x.WellFormed) (hplain : x.isPlain = false) :
    (Tag.ofSpelling x.text).read (x.text.map .char) = .ok (.str (.ofChars x.text)) := by
  have hint : x.isInt = false := by
    obtain ⟨negative, whole, part, e⟩ := x
    cases e with
    | none => cases hplain
    | some e => simp [isInt]
  rw [ofSpelling_text h, hint, hplain]
  rfl

end LintBundle.Json.Written
