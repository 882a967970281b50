import LintBundle.Proofs.NumberText

/-!
# Proofs/WrittenNumbers — the words of a JSON text

    [-] whole [. part] [e [±] digits]  ──scalar──▸  whole number | number with a fraction

A number is written in one of many ways, and a way to write it is data (`Written`): its digits and
which of its optional parts are there.  The words that are read are these and the six that have a
name (`Word`): each of them is read as what it stands for, wherever no number goes on
(`Word.scalar`), and nothing else is read (`scalar_word`).
-/

namespace LintBundle.Json

open Reader (IsWhole EndsDigits EndsNumber afterWhole)

/-! ## Ways to write a number -/

/-- A written exponent: its mark, its sign, which may be left out, and its digits. -/
structure Exponent where
  capital : Bool
  sign : Option Bool
  digits : List ℕ

namespace Exponent

/-- The text of a sign; `true` stands for the minus sign. -/
def signText : Option Bool → List Char
  | none => []
  | some true => ['-']
  | some false => ['+']

/-- The text of an exponent. -/
def text (e : Exponent) : List Char :=
  (if e.capital then 'E' else 'e') :: (signText e.sign ++ digitChars e.digits)

/-- The exponent that is written. -/
def value (e : Exponent) : ℤ :=
  if e.sign = some true then -(Reading.ofDigits 10 e.digits : ℤ) else Reading.ofDigits 10 e.digits

/-- One or more digits. -/
structure WellFormed (e : Exponent) : Prop where
  nonempty : e.digits ≠ []
  digits : ∀ d ∈ e.digits, d < 10

end Exponent

/-- **A number as it is written**: the digits before the point, those behind it, without which there
is no point, and the exponent. -/
structure Written where
  negative : Bool
  whole : List ℕ
  part : List ℕ
  exponent : Option Exponent

namespace Written

/-- The text of a fraction. -/
def partText (part : List ℕ) : List Char := if part = [] then [] else '.' :: digitChars part

/-- The text of an exponent, if there is one. -/
def exponentText (e : Option Exponent) : List Char := e.elim [] Exponent.text

/-- The text without the sign. -/
def body (x : Written) : List Char :=
  digitChars x.whole ++ (partText x.part ++ exponentText x.exponent)

/-- The text of a number. -/
def text (x : Written) : List Char := if x.negative then '-' :: x.body else x.body

/-- Whether a number is written without a fraction and an exponent. -/
def isInt (x : Written) : Bool := x.part.isEmpty && x.exponent.isNone

/-- The number that digits with a fraction or an exponent stand for, with a sign. -/
def float (x : Written) (negative : Bool) : Binary64 :=
  .ofDecimal negative (x.whole ++ x.part) (x.exponent.elim 0 Exponent.value - x.part.length)

/-- The whole number that the digits stand for, with a sign. -/
def int (x : Written) : ℤ :=
  if x.negative then -(Reading.ofDigits 10 x.whole : ℤ) else Reading.ofDigits 10 x.whole

/-- The data that a number is. -/
def value (x : Written) : Json := if x.isInt then .int x.int else .float (x.float x.negative)

/-- Digits where digits have to be, and not too many for a whole number. -/
structure WellFormed (x : Written) : Prop where
  whole : IsWhole x.whole
  part : ∀ d ∈ x.part, d < 10
  exponent : ∀ e ∈ x.exponent, e.WellFormed
  short : x.isInt = true → x.whole.length ≤ decimalDigitLimit

end Written

/-- **The words of a JSON text**, and the data they are. -/
inductive Word : List Char → Json → Prop
  | named {word : String} {j : Json} (h : (word, j) ∈ Reader.words) : Word word.toList j
  | number {x : Written} (h : x.WellFormed) : Word x.text x.value

/-! ## What is written is read -/

/-- A character that is a digit. -/
theorem digit_range {d : ℕ} (hd : d < 10) :
    '0' ≤ Char.ofNat ('0'.toNat + d) ∧ Char.ofNat ('0'.toNat + d) ≤ '9' := by
  have hall : ∀ d < 10, '0' ≤ Char.ofNat ('0'.toNat + d) ∧ Char.ofNat ('0'.toNat + d) ≤ '9' := by
    decide
  exact hall d hd

/-- Digits begin with a digit. -/
theorem digitChars_head {ds : List ℕ} (hne : ds ≠ []) (hlt : ∀ d ∈ ds, d < 10) :
    ∃ c r, digitChars ds = c :: r ∧ '0' ≤ c ∧ c ≤ '9' := by
  cases ds with
  | nil => exact absurd rfl hne
  | cons d ds => exact ⟨_, _, rfl, digit_range (hlt d (List.mem_cons_self ..))⟩

/-- A sign in front of digits is split off. -/
theorem sign_signText (s : Option Bool) {ds : List ℕ} (hne : ds ≠ []) (hlt : ∀ d ∈ ds, d < 10)
    (rest : List Char) :
    Reading.sign (Exponent.signText s ++ (digitChars ds ++ rest))
      = (decide (s = some true), digitChars ds ++ rest) := by
  match s with
  | some true => rfl
  | some false => rfl
  | none =>
    obtain ⟨c, r, hform, hlow, -⟩ := digitChars_head hne hlt
    have hminus : c ≠ '-' := by
      rintro rfl
      exact absurd hlow (by decide)
    have hplus : c ≠ '+' := by
      rintro rfl
      exact absurd hlow (by decide)
    rw [hform]
    simp [Exponent.signText, Reading.sign, hminus, hplus]

/-- An exponent is read back. -/
theorem exponent_text {e : Exponent} (h : e.WellFormed) {rest : List Char}
    (hrest : EndsDigits rest) :
    Reader.exponent (e.text ++ rest) = (some e.value, rest) := by
  have hsign := sign_signText e.sign h.nonempty h.digits rest
  have hspan := Reader.spanDigits_digitChars h.digits hrest
  have hmark : ((if e.capital then 'E' else 'e') = 'e' || (if e.capital then 'E' else 'e') = 'E')
      = true := by cases e.capital <;> rfl
  rw [Exponent.text, List.cons_append, List.append_assoc, Reader.exponent, if_pos hmark, hsign]
  dsimp only
  rw [hspan, Exponent.value]
  cases hds : e.digits with
  | nil => exact absurd hds h.nonempty
  | cons d ds => simp

theorem endsDigits_cons {c : Char} (hc : ¬ ('0' ≤ c ∧ c ≤ '9')) (rest : List Char) :
    EndsDigits (c :: rest) := by
  rintro c' hc'
  obtain rfl : c = c' := Option.some.inj hc'
  exact hc

/-- An exponent is read back, also if it is left out. -/
theorem exponent_exponentText {e : Option Exponent} (h : ∀ e' ∈ e, e'.WellFormed) {rest : List Char}
    (hrest : EndsNumber rest) :
    Reader.exponent (Written.exponentText e ++ rest) = (e.map Exponent.value, rest) ∧
      EndsDigits (Written.exponentText e ++ rest) ∧
      ∀ c ∈ (Written.exponentText e ++ rest).head?, c ≠ '.' := by
  cases e with
  | none =>
    exact ⟨Reader.exponent_of_ends hrest, hrest.endsDigits, fun c hc => (hrest c hc).2.1⟩
  | some e =>
    have hhead : ∀ c ∈ (e.text ++ rest).head?, c = 'E' ∨ c = 'e' := by
      rintro c hc
      obtain rfl := Option.some.inj hc
      cases e.capital
      · exact .inr rfl
      · exact .inl rfl
    refine ⟨exponent_text (h e rfl) hrest.endsDigits, fun c hc => ?_, fun c hc => ?_⟩
    · rcases hhead c hc with rfl | rfl <;> decide
    · rcases hhead c hc with rfl | rfl <;> decide

/-- A fraction is read back, also if it is left out. -/
theorem fraction_partText {part : List ℕ} (hlt : ∀ d ∈ part, d < 10) {rest : List Char}
    (hrest : EndsDigits rest) (hpoint : ∀ c ∈ rest.head?, c ≠ '.') :
    Reader.fraction (Written.partText part ++ rest)
        = (if part.isEmpty then none else some part, rest) ∧
      EndsDigits (Written.partText part ++ rest) := by
  cases part with
  | nil => exact ⟨Reader.fraction_of_ne hpoint, hrest⟩
  | cons d ds =>
    exact ⟨Reader.fraction_digitChars (List.cons_ne_nil d ds) hlt hrest,
      endsDigits_cons (by decide) _⟩

/-- The number that the parts come to, unless it is a whole number with too many digits. -/
theorem afterWhole_written (x : Written) {r r' rest : List Char}
    (hfraction : Reader.fraction r = (if x.part.isEmpty then none else some x.part, r'))
    (hexponent : Reader.exponent r' = (x.exponent.map Exponent.value, rest)) :
    afterWhole x.negative x.whole r
      = if x.isInt ∧ decimalDigitLimit < x.whole.length then .error .notANumber
        else .ok (x.value, rest) := by
  obtain ⟨negative, whole, part, e⟩ := x
  dsimp only at hfraction hexponent ⊢
  rw [afterWhole, hfraction]
  dsimp only
  rw [hexponent]
  cases part with
  | nil => cases e <;> simp [Written.value, Written.isInt, Written.int, Written.float]
  | cons d ds => cases e <;> simp [Written.value, Written.isInt, Written.float]

/-- **A written number is read**, its sign apart. -/
theorem Written.number {x : Written} (h : x.WellFormed) {rest : List Char}
    (hrest : EndsNumber rest) :
    Reader.number x.negative (x.body ++ rest) = .ok (x.value, rest) := by
  obtain ⟨hexponent, hdigits, hpoint⟩ := exponent_exponentText h.exponent hrest
  obtain ⟨hfraction, hdigits'⟩ := fraction_partText h.part hdigits hpoint
  rw [body, List.append_assoc, List.append_assoc, Reader.number_digitChars h.whole _ hdigits',
    afterWhole_written x hfraction hexponent, if_neg]
  rintro ⟨hint, hlimit⟩
  exact Nat.not_lt.2 (h.short hint) hlimit

/-- **A word is read as the data it is**, where no number goes on. -/
theorem Word.scalar {w : List Char} {j : Json} (h : Word w j) {rest : List Char}
    (hrest : EndsNumber rest) : Reader.scalar (w ++ rest) = .ok (j, rest) := by
  cases h with
  | named h =>
    simp only [Reader.words, List.mem_cons, List.not_mem_nil, or_false, Prod.mk.injEq] at h
    rcases h with ⟨rfl, rfl⟩ | ⟨rfl, rfl⟩ | ⟨rfl, rfl⟩ | ⟨rfl, rfl⟩ | ⟨rfl, rfl⟩ |
      ⟨rfl, rfl⟩ <;> rfl
  | @number x h =>
    have hnumber := Written.number h hrest
    cases hsign : x.negative with
    | true =>
      rw [Written.text, if_pos hsign]
      exact Reader.scalar_of_negative (hsign ▸ hnumber)
    | false =>
      rw [Written.text, if_neg (by rw [hsign]; decide)]
      exact Reader.scalar_of_number (hsign ▸ hnumber)

/-! ## What is read is written -/

/-- The digits in front are the digits that are read. -/
theorem spanDigits_eq {cs rest : List Char} {ds : List ℕ}
    (h : Reader.spanDigits cs = (ds, rest)) : cs = digitChars ds ++ rest ∧ ∀ d ∈ ds, d < 10 := by
  induction cs generalizing ds with
  | nil =>
    obtain ⟨rfl, rfl⟩ := Prod.mk.inj h
    exact ⟨rfl, by simp⟩
  | cons c cs ih =>
    rw [Reader.spanDigits] at h
    split at h
    · rename_i hc
      obtain ⟨rfl, hrest⟩ := Prod.mk.inj h
      have hspan : Reader.spanDigits cs = ((Reader.spanDigits cs).1, rest) := Prod.ext rfl hrest
      obtain ⟨hform, hlt⟩ := ih hspan
      have hdigit := digitChar_toNat (c := c) hc
      refine ⟨?_, List.forall_mem_cons.2 ⟨hdigit.1, hlt⟩⟩
      rw [digitChars, List.map_cons, hdigit.2, List.cons_append]
      exact congrArg _ hform
    · obtain ⟨rfl, rfl⟩ := Prod.mk.inj h
      exact ⟨rfl, by simp⟩

/-- A sign that is read was written, or none was. -/
theorem exists_signText (cs : List Char) : ∃ s,
    cs = Exponent.signText s ++ (Reading.sign cs).2 ∧ (Reading.sign cs).1 =
      decide (s = some true) := by
  unfold Reading.sign
  split
  · exact ⟨some true, rfl, rfl⟩
  · exact ⟨some false, rfl, rfl⟩
  · exact ⟨none, rfl, rfl⟩

/-- An exponent that is read was written, or none was. -/
theorem exists_exponentText (cs : List Char) : ∃ e, (∀ e' ∈ e, e'.WellFormed) ∧
    cs = Written.exponentText e ++ (Reader.exponent cs).2 ∧
      (Reader.exponent cs).1 = e.map Exponent.value := by
  have hnone : ∀ cs : List Char, ∃ e : Option Exponent, (∀ e' ∈ e, e'.WellFormed) ∧
      cs = Written.exponentText e ++ cs ∧ none = e.map Exponent.value :=
    fun cs => ⟨none, by simp, rfl, rfl⟩
  cases cs with
  | nil => exact hnone []
  | cons c r =>
    rw [Reader.exponent]
    split
    · rename_i hc
      obtain ⟨s, hform, hsign⟩ := exists_signText r
      rcases hread : Reading.sign r with ⟨negative, r'⟩
      rw [hread] at hform hsign
      dsimp only at hform hsign ⊢
      rcases hspan : Reader.spanDigits r' with ⟨ds, rest⟩
      obtain ⟨hdigits, hlt⟩ := spanDigits_eq hspan
      cases ds with
      | nil => exact hnone (c :: r)
      | cons d ds =>
        refine ⟨some ⟨decide (c = 'E'), s, d :: ds⟩, ?_, ?_, ?_⟩
        · intro e' he'
          obtain rfl := Option.some.inj he'
          exact ⟨List.cons_ne_nil d ds, hlt⟩
        · have hmark : (if decide (c = 'E') then 'E' else 'e') = c := by
            by_cases hE : c = 'E'
            · simp [hE]
            · have he : c = 'e' := by simpa [hE] using hc
              simp [he]
          change c :: r = Exponent.text _ ++ rest
          rw [Exponent.text, hmark, List.cons_append, List.append_assoc, ← hdigits, ← hform]
        · subst hsign
          simp [Exponent.value]
    · exact hnone (c :: r)

/-- A fraction that is read was written, or none was. -/
theorem exists_partText (cs : List Char) : ∃ part : List ℕ, (∀ d ∈ part, d < 10) ∧
    cs = Written.partText part ++ (Reader.fraction cs).2 ∧
      (Reader.fraction cs).1 = if part.isEmpty then none else some part := by
  have hnone : ∀ cs : List Char, ∃ part : List ℕ, (∀ d ∈ part, d < 10) ∧
      cs = Written.partText part ++ cs ∧ none = if part.isEmpty then none else some part :=
    fun cs => ⟨[], by simp, rfl, rfl⟩
  unfold Reader.fraction
  split
  · rename_i r
    rcases hspan : Reader.spanDigits r with ⟨ds, rest⟩
    obtain ⟨hdigits, hlt⟩ := spanDigits_eq hspan
    cases ds with
    | nil => exact hnone ('.' :: r)
    | cons d ds => exact ⟨d :: ds, hlt, congrArg _ hdigits, rfl⟩
  · exact hnone cs

/-- The whole part that is read was written. -/
theorem exists_whole {negative : Bool} {cs : List Char} {found : Json × List Char}
    (h : Reader.number negative cs = .ok found) : ∃ whole r, IsWhole whole ∧
      cs = digitChars whole ++ r ∧ afterWhole negative whole r = .ok found := by
  obtain ⟨c, r, rfl, hc⟩ := Reader.digit_of_number_ok h
  by_cases hzero : c = '0'
  · subst hzero
    exact ⟨[0], r, ⟨by simp, by simp, fun _ => rfl⟩, rfl, h⟩
  · rcases hspan : Reader.spanDigits (c :: r) with ⟨ds, rest⟩
    obtain ⟨hform, hlt⟩ := spanDigits_eq hspan
    rw [Reader.number, hspan] at h
    · cases ds with
      | nil => cases h
      | cons d ds =>
        refine ⟨d :: ds, rest, ⟨List.cons_ne_nil d ds, hlt, fun hhead => ?_⟩, hform, h⟩
        obtain rfl : d = 0 := Option.some.inj hhead
        exact absurd (List.cons.inj hform).1 hzero
    · rintro r' heq
      exact hzero (List.cons.inj heq).1

/-- **What is read as a number was written so**, its sign apart. -/
theorem exists_written {negative : Bool} {cs rest : List Char} {j : Json}
    (h : Reader.number negative cs = .ok (j, rest)) : ∃ x : Written, x.WellFormed ∧
      x.negative = negative ∧ cs = x.body ++ rest ∧ j = x.value := by
  obtain ⟨whole, r, hwhole, rfl, hafter⟩ := exists_whole h
  obtain ⟨part, hpart, hform, hread⟩ := exists_partText r
  obtain ⟨e, he, hform', hread'⟩ := exists_exponentText (Reader.fraction r).2
  let x : Written := ⟨negative, whole, part, e⟩
  have hvalue := afterWhole_written x (Prod.ext hread rfl) (Prod.ext hread' rfl)
  rw [hvalue] at hafter
  split at hafter
  · cases hafter
  · rename_i hshort
    obtain ⟨rfl, rfl⟩ := Prod.mk.inj (Except.ok.inj hafter)
    have hlimit : x.isInt = true → x.whole.length ≤ decimalDigitLimit := fun hint =>
      Nat.not_lt.1 fun hlt => hshort ⟨hint, hlt⟩
    refine ⟨x, ⟨hwhole, hpart, he, hlimit⟩, rfl, ?_, rfl⟩
    rw [Written.body, List.append_assoc, List.append_assoc, ← hform', ← hform]

/-- **What is read is a word.** -/
theorem scalar_word {cs rest : List Char} {j : Json}
    (h : Reader.scalar cs = .ok (j, rest)) : ∃ w, cs = w ++ rest ∧ Word w j := by
  unfold Reader.scalar at h
  split at h
  · rename_i found hfound
    obtain rfl : found = (j, rest) := Except.ok.inj h
    obtain ⟨⟨word, j'⟩, hmem, hafter⟩ := List.exists_of_findSome?_eq_some hfound
    obtain ⟨rest', hword, hpair⟩ := Option.map_eq_some_iff.1 hafter
    obtain ⟨rfl, rfl⟩ := Prod.mk.inj hpair
    rw [Reader.afterWord?] at hword
    split at hword
    · rename_i hprefix
      obtain ⟨more, rfl⟩ := List.isPrefixOf_iff_prefix.1 hprefix
      rw [List.drop_left] at hword
      obtain rfl := Option.some.inj hword
      exact ⟨word.toList, rfl, .named hmem⟩
    · cases hword
  · split at h
    · rename_i r
      obtain ⟨x, hx, hsign, rfl, rfl⟩ := exists_written h
      refine ⟨x.text, ?_, .number hx⟩
      rw [Written.text, if_pos hsign]
      rfl
    · obtain ⟨x, hx, hsign, rfl, rfl⟩ := exists_written h
      refine ⟨x.text, ?_, .number hx⟩
      rw [Written.text, if_neg (by rw [hsign]; decide)]

end LintBundle.Json
