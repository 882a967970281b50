import LintBundle.Json.Printer
import LintBundle.Proofs.Numerals

/-!
# Proofs/NumberText — numbers in a JSON text are read back

    text ──▸ whole digits ──▸ fraction ──▸ exponent ──▸ what follows

A number is read in three steps, and each written form of a number is digits for these steps; the
digits together, with the point where the form has it, read as the numeral that was written.  What
follows a number must not be mistaken for more of it (`EndsNumber`).
-/

namespace LintBundle

open Binary64 (Numeral)

namespace Json.Reader

/-- A text that no number can go on with. -/
def EndsNumber (rest : List Char) : Prop :=
  ∀ c ∈ rest.head?, ¬ ('0' ≤ c ∧ c ≤ '9') ∧ c ≠ '.' ∧ c ≠ 'e' ∧ c ≠ 'E'

theorem EndsNumber.endsDigits {rest : List Char} (h : EndsNumber rest) : EndsDigits rest :=
  fun c hc => (h c hc).1

/-! ## The three steps -/

/-- What a number comes to after its whole part. -/
def afterWhole (negative : Bool) (whole : List ℕ) (cs : List Char) :
    Except TextFault (Json × List Char) :=
  let (part, rest) := fraction cs
  let (e, rest) := exponent rest
  if part.isNone && e.isNone then
    if decimalDigitLimit < whole.length then .error .notANumber
    else
      let n : Int := Reading.ofDigits 10 whole
      .ok (.int (if negative then -n else n), rest)
  else
    let part := part.getD []
    .ok (.float (.ofDecimal negative (whole ++ part) (e.getD 0 - part.length)), rest)

/-- Digits that a whole part can be: at least one, and no zero in front of others. -/
structure IsWhole (whole : List ℕ) : Prop where
  nonempty : whole ≠ []
  digits : ∀ d ∈ whole, d < 10
  zero : whole.head? = some 0 → whole = [0]

/-- **The whole part is read** up to what is no digit. -/
theorem number_digitChars {whole : List ℕ} (h : IsWhole whole) (negative : Bool) {cs : List Char}
    (hcs : EndsDigits cs) :
    number negative (digitChars whole ++ cs) = afterWhole negative whole cs := by
  obtain ⟨hne, hlt, hzero⟩ := h
  cases whole with
  | nil => exact absurd rfl hne
  | cons d ds =>
    by_cases hd : d = 0
    · obtain rfl : ds = [] := by
        have := hzero (by rw [hd]; rfl)
        simpa [hd] using this
      subst hd
      rfl
    · have hspan := spanDigits_digitChars hlt hcs
      have hchar : Char.ofNat ('0'.toNat + d) ≠ '0' := by
        have hall : ∀ d < 10, d ≠ 0 → Char.ofNat ('0'.toNat + d) ≠ '0' := by decide
        exact hall d (hlt d (List.mem_cons_self ..)) hd
      have hform : digitChars (d :: ds) ++ cs
          = Char.ofNat ('0'.toNat + d) :: (digitChars ds ++ cs) := rfl
      rw [hform] at hspan ⊢
      rw [number, hspan]
      · rfl
      · rintro r heq
        exact hchar (List.cons.inj heq).1

/-- A point and digits are a fraction. -/
theorem fraction_digitChars {part : List ℕ} (hne : part ≠ []) (hlt : ∀ d ∈ part, d < 10)
    {cs : List Char} (hcs : EndsDigits cs) :
    fraction ('.' :: (digitChars part ++ cs)) = (some part, cs) := by
  rw [fraction, spanDigits_digitChars hlt hcs]
  cases part with
  | nil => exact absurd rfl hne
  | cons d ds => rfl

theorem fraction_of_ne {cs : List Char} (h : ∀ c ∈ cs.head?, c ≠ '.') :
    fraction cs = (none, cs) := by
  cases cs with
  | nil => rfl
  | cons c cs =>
    have hc : c ≠ '.' := h c rfl
    rw [fraction]
    simp [hc]

/-- A mark, a sign and digits are an exponent. -/
theorem exponent_digitChars (negative : Bool) {ds : List ℕ} (hne : ds ≠ [])
    (hlt : ∀ d ∈ ds, d < 10) {cs : List Char} (hcs : EndsDigits cs) :
    exponent ('e' :: (if negative then '-' else '+') :: (digitChars ds ++ cs))
      = (some (if negative then -(Reading.ofDigits 10 ds : ℤ)
          else Reading.ofDigits 10 ds), cs) := by
  have hspan := spanDigits_digitChars hlt hcs
  cases ds with
  | nil => exact absurd rfl hne
  | cons d ds =>
    cases negative with
    | true => simp [exponent, Reading.sign, hspan]
    | false => simp [exponent, Reading.sign, hspan]

theorem exponent_of_ends {cs : List Char} (h : EndsNumber cs) : exponent cs = (none, cs) := by
  cases cs with
  | nil => rfl
  | cons c cs =>
    obtain ⟨_, _, he, hE⟩ := h c rfl
    rw [exponent, if_neg (by simp [he, hE])]

/-! ## Whole numbers -/

theorem isWhole_decimalDigits (n : ℕ) : IsWhole (decimalDigits n) where
  nonempty := decimalDigits_ne_nil n
  digits := fun _ => decimalDigits_lt
  zero := by
    intro hhead
    by_cases hn : n = 0
    · rw [hn]
      rfl
    · exact absurd hhead (head_decimalDigits hn)

/-- **A whole number is read back**, if it is not too long. -/
theorem number_decimalText (negative : Bool) {n : ℕ}
    (hn : (decimalText n).length ≤ decimalDigitLimit) {rest : List Char} (hrest : EndsNumber rest) :
    number negative (decimalText n ++ rest)
      = .ok (.int (if negative then -(n : ℤ) else n), rest) := by
  have hlength : ¬ decimalDigitLimit < (decimalDigits n).length := by
    have heq : (decimalDigits n).length = (decimalText n).length := List.length_map _
    omega
  rw [← digitChars_decimalDigits, number_digitChars (isWhole_decimalDigits n) negative
    hrest.endsDigits, afterWhole, fraction_of_ne fun c hc => (hrest c hc).2.1]
  simp only [exponent_of_ends hrest, Option.isNone_none, Bool.and_self, if_true, if_neg hlength,
    ofDigits_decimalDigits]

/-! ## Numbers with a point or an exponent -/

/-- A fraction alone makes a number one with a point. -/
theorem number_fraction (negative : Bool) {whole part : List ℕ} (hwhole : IsWhole whole)
    (hne : part ≠ []) (hlt : ∀ d ∈ part, d < 10) {rest : List Char} (hrest : EndsNumber rest) :
    number negative (digitChars whole ++ '.' :: (digitChars part ++ rest))
      = .ok (.float (.ofDecimal negative (whole ++ part) (-part.length)), rest) := by
  have hpoint : EndsDigits ('.' :: (digitChars part ++ rest)) := by
    intro c hc
    obtain rfl : '.' = c := Option.some.inj hc
    decide
  rw [number_digitChars hwhole negative hpoint, afterWhole,
    fraction_digitChars hne hlt hrest.endsDigits]
  simp only [exponent_of_ends hrest, Option.isNone_some, Bool.false_and, Bool.false_eq_true,
    if_false, Option.getD_some, Option.getD_none, zero_sub]

/-- A digit, perhaps with a fraction, and an exponent make a number one with an exponent. -/
theorem number_exponent (negative below : Bool) {d : ℕ} {part places : List ℕ} (hd : d < 10)
    (hlt : ∀ d ∈ part, d < 10) (hplaces : places ≠ []) (hplaces' : ∀ d ∈ places, d < 10)
    {rest : List Char} (hrest : EndsNumber rest) :
    number negative (digitChars [d] ++ ((if part = [] then [] else '.' :: digitChars part) ++
        'e' :: (if below then '-' else '+') :: (digitChars places ++ rest)))
      = .ok (.float (.ofDecimal negative (d :: part)
          ((if below then -(Reading.ofDigits 10 places : ℤ) else Reading.ofDigits 10 places)
            - part.length)), rest) := by
  have hwhole : IsWhole [d] :=
    ⟨by simp, by simpa using hd, fun h => by simpa using h⟩
  have hmark : ∀ cs, EndsDigits ('e' :: cs) := by
    intro cs c hc
    obtain rfl : 'e' = c := Option.some.inj hc
    decide
  have hexp := exponent_digitChars below hplaces hplaces' hrest.endsDigits
  by_cases hpart : part = []
  · subst hpart
    rw [if_pos rfl, List.nil_append, number_digitChars hwhole negative (hmark _), afterWhole,
      fraction_of_ne (by simp)]
    simp only [hexp]
    rfl
  · have hpoint : ∀ cs, EndsDigits ('.' :: cs) := by
      intro cs c hc
      obtain rfl : '.' = c := Option.some.inj hc
      decide
    rw [if_neg hpart, List.cons_append, number_digitChars hwhole negative (hpoint _), afterWhole,
      fraction_digitChars hpart hlt (hmark _)]
    simp only [hexp]
    rfl

end Json.Reader

/-! ## Written numerals -/

@[simp] theorem digitChars_append (ds es : List ℕ) :
    digitChars (ds ++ es) = digitChars ds ++ digitChars es := List.map_append

@[simp] theorem digitChars_replicate (k : ℕ) :
    digitChars (List.replicate k 0) = List.replicate k '0' := List.map_replicate

open Json.Reader

variable {x : Numeral} {rest : List Char}

/-- Digits with zeros behind them can be a whole part. -/
theorem isWhole_take (hx : x.WellFormed) (k : ℕ) {n : ℕ} (hn : 0 < n) :
    IsWhole (x.digits.take n ++ List.replicate k 0) := by
  obtain ⟨hne, hhead, hlt⟩ := hx
  cases hds : x.digits with
  | nil => exact absurd hds hne
  | cons d ds =>
    rw [hds] at hhead hlt
    obtain ⟨n, rfl⟩ : ∃ m, n = m + 1 := ⟨n - 1, by omega⟩
    refine ⟨by simp, ?_, fun h => absurd h hhead⟩
    intro d' hd'
    rcases List.mem_append.1 hd' with hd' | hd'
    · exact hlt d' (List.mem_of_mem_take hd')
    · rw [List.eq_of_mem_replicate hd']
      decide

/-- A numeral below one reads as its digits behind zeros. -/
theorem read_small (negative : Bool) (hpoint : x.point ≤ 0) :
    Binary64.ofDecimal negative ([0] ++ (List.replicate (-x.point).toNat 0 ++ x.digits))
      (-((List.replicate (-x.point).toNat 0 ++ x.digits).length : ℤ)) = x.read negative := by
  have hzeros : [0] ++ (List.replicate (-x.point).toNat 0 ++ x.digits)
      = List.replicate ((-x.point).toNat + 1) 0 ++ x.digits := rfl
  rw [hzeros, Binary64.ofDecimal_replicate_append, Numeral.read]
  congr 1
  rw [List.length_append, List.length_replicate]
  push_cast
  omega

/-- A numeral whose digits end before the point reads as its digits with zeros up to it, and one
behind it. -/
theorem read_whole (negative : Bool) {n : ℕ} (hpoint : x.point = n) (hle : x.digits.length ≤ n) :
    Binary64.ofDecimal negative
        (x.digits.take n ++ List.replicate (n - x.digits.length) 0 ++ [0])
        (-(([0] : List ℕ).length : ℤ)) = x.read negative := by
  rw [List.take_of_length_le hle, List.append_assoc, ← List.replicate_succ',
    Binary64.ofDecimal_append_replicate, Numeral.read, hpoint]
  congr 1
  rw [List.length_singleton]
  push_cast
  omega

/-- A numeral with digits on both sides of the point reads as all of them. -/
theorem read_split (negative : Bool) {n : ℕ} (hpoint : x.point = n) (hlt : n < x.digits.length) :
    Binary64.ofDecimal negative
        (x.digits.take n ++ List.replicate (n - x.digits.length) 0 ++ x.digits.drop n)
        (-((x.digits.drop n).length : ℤ)) = x.read negative := by
  have hnone : n - x.digits.length = 0 := by omega
  rw [hnone, List.replicate_zero, List.append_nil, List.take_append_drop, Numeral.read, hpoint,
    List.length_drop]
  congr 1
  omega

/-- A numeral reads as its digits with the point behind the first, and an exponent. -/
theorem read_scientific (negative : Bool) {d : ℕ} {part places : List ℕ}
    (hdigits : x.digits = d :: part)
    (hvalue : Reading.ofDigits 10 places = (x.point - 1).natAbs) :
    Binary64.ofDecimal negative (d :: part)
        ((if decide (x.point - 1 < 0) then -(Reading.ofDigits 10 places : ℤ)
          else Reading.ofDigits 10 places) - part.length) = x.read negative := by
  have hsign : (if decide (x.point - 1 < 0) then -(Reading.ofDigits 10 places : ℤ)
      else Reading.ofDigits 10 places) = x.point - 1 := by
    rw [hvalue]
    split
    · rename_i h
      have := of_decide_eq_true h
      omega
    · rename_i h
      have : ¬ x.point - 1 < 0 := by simpa using h
      omega
  rw [hsign, Numeral.read, hdigits]
  congr 1
  rw [List.length_cons]
  push_cast
  ring

/-- A numeral below one, with zeros behind the point. -/
theorem number_text_small (hx : x.WellFormed) (negative : Bool) (hrest : EndsNumber rest)
    (hpoint : x.point ≤ 0) :
    number negative ('0' :: '.' :: (List.replicate (-x.point).toNat '0' ++ digitChars x.digits)
        ++ rest) = .ok (.float (x.read negative), rest) := by
  obtain ⟨hne, _, hlt⟩ := hx
  set k := (-x.point).toNat with hk
  have hdigits : ∀ d ∈ List.replicate k 0 ++ x.digits, d < 10 := by
    intro d hd
    rcases List.mem_append.1 hd with hd | hd
    · rw [List.eq_of_mem_replicate hd]
      decide
    · exact hlt d hd
  have hzero : IsWhole [0] := ⟨by simp, by simp, fun _ => rfl⟩
  have hnumber := number_fraction negative hzero (by simp [hne]) hdigits hrest
  have hwritten : digitChars [0] = ['0'] := rfl
  rw [read_small negative hpoint, digitChars_append, digitChars_replicate, hwritten] at hnumber
  simpa using hnumber

/-- A numeral with a point among its digits or behind them. -/
theorem number_text_positional (hx : x.WellFormed) (negative : Bool) (hrest : EndsNumber rest)
    {n : ℕ} (hn : 0 < n) (hpoint : x.point = n) :
    number negative ((digitChars x.digits).take n
        ++ List.replicate (n - (digitChars x.digits).length) '0'
        ++ '.' :: (if ((digitChars x.digits).drop n).isEmpty then ['0']
          else (digitChars x.digits).drop n) ++ rest)
      = .ok (.float (x.read negative), rest) := by
  have hwhole := isWhole_take hx (n - x.digits.length) hn
  have hlength : (digitChars x.digits).length = x.digits.length := List.length_map _
  have htake : (digitChars x.digits).take n = digitChars (x.digits.take n) := List.map_take.symm
  have hdrop : (digitChars x.digits).drop n = digitChars (x.digits.drop n) := List.map_drop.symm
  rw [htake, hdrop, hlength, ← digitChars_replicate, ← digitChars_append]
  by_cases hle : x.digits.length ≤ n
  · -- the digits end before the point, so zeros stand up to it and one behind it
    have hall : x.digits.drop n = [] := List.drop_eq_nil_of_le hle
    have hnumber := number_fraction negative hwhole (List.cons_ne_nil 0 []) (by simp) hrest
    rw [read_whole negative hpoint hle] at hnumber
    rw [hall]
    simpa [digitChars] using hnumber
  · have hne : x.digits.drop n ≠ [] := by
      rw [Ne, List.drop_eq_nil_iff]
      exact hle
    have hlt : ∀ d ∈ x.digits.drop n, d < 10 := fun d hd => hx.digits d (List.mem_of_mem_drop hd)
    have hnumber := number_fraction negative hwhole hne hlt hrest
    rw [read_split negative hpoint (by omega)] at hnumber
    have hempty : (digitChars (x.digits.drop n)).isEmpty = false := by
      simpa [digitChars] using hle
    rw [hempty]
    simpa using hnumber

/-- A numeral with an exponent. -/
theorem number_text_scientific (hx : x.WellFormed) (negative : Bool) (hrest : EndsNumber rest)
    {places : List ℕ} (hplaces : places ≠ []) (hplaces' : ∀ d ∈ places, d < 10)
    (hvalue : Reading.ofDigits 10 places = (x.point - 1).natAbs) :
    number negative ((digitChars x.digits).take 1
        ++ (if (digitChars x.digits).length ≤ 1 then [] else '.' :: (digitChars x.digits).drop 1)
        ++ 'e' :: (if x.point - 1 < 0 then '-' else '+') :: digitChars places ++ rest)
      = .ok (.float (x.read negative), rest) := by
  obtain ⟨hne, hhead, hlt⟩ := hx
  cases hds : x.digits with
  | nil => exact absurd hds hne
  | cons d part =>
    rw [hds] at hlt
    have hnumber := number_exponent negative (decide (x.point - 1 < 0))
      (hlt d (List.mem_cons_self ..)) (fun d' hd' => hlt d' (List.mem_cons_of_mem _ hd'))
      hplaces hplaces' hrest
    rw [read_scientific negative hds hvalue] at hnumber
    cases part with
    | nil => simpa [digitChars] using hnumber
    | cons d' part => simpa [digitChars] using hnumber

/-- **A written numeral is read back** as the number it reads as. -/
theorem number_text (hx : x.WellFormed) (negative : Bool) (hrest : EndsNumber rest) :
    number negative (x.text ++ rest) = .ok (.float (x.read negative), rest) := by
  unfold Numeral.text
  simp only
  split
  · split
    · rename_i hpoint
      exact number_text_small hx negative hrest hpoint
    · rename_i hpoint
      exact number_text_positional hx negative hrest (n := x.point.toNat) (by omega) (by omega)
  · have hdigits := digitChars_decimalDigits (x.point - 1).natAbs
    by_cases hshort : (decimalText (x.point - 1).natAbs).length < 2
    · have hpadded : '0' :: decimalText (x.point - 1).natAbs
          = digitChars (0 :: decimalDigits (x.point - 1).natAbs) := by
        rw [← hdigits]
        rfl
      rw [if_pos hshort, hpadded]
      refine number_text_scientific hx negative hrest (by simp) ?_ ?_
      · intro d hd
        rcases List.mem_cons.1 hd with rfl | hd
        · decide
        · exact decimalDigits_lt hd
      · rw [Reading.ofDigits_zero_cons, ofDigits_decimalDigits]
    · rw [if_neg hshort, ← hdigits]
      exact number_text_scientific hx negative hrest (decimalDigits_ne_nil _)
        (fun _ => decimalDigits_lt) (ofDigits_decimalDigits _)

/-! ## Numbers among the scalars -/

namespace Json.Reader

/-- A text that is read as a number begins with a digit. -/
theorem digit_of_number_ok {negative : Bool} {cs : List Char} {found : Json × List Char}
    (h : number negative cs = .ok found) : ∃ c r, cs = c :: r ∧ '0' ≤ c ∧ c ≤ '9' := by
  cases cs with
  | nil => cases h
  | cons c r =>
    refine ⟨c, r, rfl, ?_⟩
    by_contra hc
    have hspan : spanDigits (c :: r) = ([], c :: r) :=
      spanDigits_of_ends fun c' hc' => by
        obtain rfl : c = c' := Option.some.inj hc'
        exact hc
    have hzero : c ≠ '0' := by
      rintro rfl
      exact hc (by decide)
    rw [number, hspan] at h
    · cases h
    · rintro r' heq
      exact hzero (List.cons.inj heq).1

/-- No word begins with a digit, or with a minus sign and a digit. -/
theorem findSome?_words {c : Char} (hc : '0' ≤ c ∧ c ≤ '9') (r : List Char) :
    (words.findSome? fun (word, j) => (afterWord? word (c :: r)).map (j, ·)) = none ∧
      (words.findSome? fun (word, j) => (afterWord? word ('-' :: c :: r)).map (j, ·)) = none := by
  have hne : ∀ c', '9' < c' → c' ≠ c := by
    rintro c' hlt rfl
    exact absurd hc.2 (Char.not_le.2 hlt)
  have hminus : '-' ≠ c := by
    rintro rfl
    exact absurd hc.1 (by decide)
  have hn := hne 'n' (by decide)
  have ht := hne 't' (by decide)
  have hf := hne 'f' (by decide)
  have hN := hne 'N' (by decide)
  have hI := hne 'I' (by decide)
  constructor <;> simp [words, afterWord?, hn, ht, hf, hN, hI, hminus]

/-- What is read as a number is read as a scalar. -/
theorem scalar_of_number {cs : List Char} {found : Json × List Char}
    (h : number false cs = .ok found) : scalar cs = .ok found := by
  obtain ⟨c, r, rfl, hc⟩ := digit_of_number_ok h
  have hminus : c ≠ '-' := by
    rintro rfl
    exact absurd hc.1 (by decide)
  rw [scalar, (findSome?_words hc r).1]
  · exact h
  · rintro r' heq
    exact hminus (List.cons.inj heq).1

/-- A minus sign in front of a number is part of the scalar. -/
theorem scalar_of_negative {cs : List Char} {found : Json × List Char}
    (h : number true cs = .ok found) : scalar ('-' :: cs) = .ok found := by
  obtain ⟨c, r, rfl, hc⟩ := digit_of_number_ok h
  rw [scalar, (findSome?_words hc r).2]
  exact h

/-- **A whole number is read back** among the scalars. -/
theorem scalar_intText {n : ℤ} (hn : isTooLong n = false) (hrest : EndsNumber rest) :
    scalar (intText n ++ rest) = .ok (.int n, rest) := by
  have hlength : (decimalText n.natAbs).length ≤ decimalDigitLimit := by
    simpa [isTooLong] using hn
  unfold intText
  split
  · have hnumber := number_decimalText true hlength hrest
    have hvalue : -(n.natAbs : ℤ) = n := by omega
    rw [if_pos rfl, hvalue] at hnumber
    exact scalar_of_negative hnumber
  · have hnumber := number_decimalText false hlength hrest
    have hvalue : (n.natAbs : ℤ) = n := by omega
    rw [if_neg (by decide), hvalue] at hnumber
    exact scalar_of_number hnumber

/-- A finite number is read back without its sign, as the number with it. -/
theorem number_body (negative : Bool) {m : ℕ} {q : ℤ} (hc : Canonical m q)
    (hrest : EndsNumber rest) :
    number negative ((if m = 0 then ['0', '.', '0'] else (Binary64.shortest m q).text) ++ rest)
      = .ok (.float (.finite negative m q hc), rest) := by
  by_cases hm : m = 0
  · subst hm
    obtain rfl : q = -1074 := hc.2.2.2.resolve_left (by norm_num)
    have hzero : IsWhole [0] := ⟨by simp, by simp, fun _ => rfl⟩
    have hvalue : Binary64.ofDecimal negative ([0] ++ [0]) (-(([0] : List ℕ).length : ℤ))
        = .finite negative 0 (-1074) hc := by
      rw [Binary64.ofDecimal_eq, if_pos (.inl (by decide))]
      rfl
    have hnumber := number_fraction negative hzero (List.cons_ne_nil 0 []) (by simp) hrest
    rw [hvalue] at hnumber
    exact hnumber
  · obtain ⟨hnames, hx⟩ := Binary64.shortest_names hm hc
    rw [if_neg hm, number_text hx negative hrest, hnames hc]

/-- **A number with a fraction is read back**, the words among them included. -/
theorem scalar_floatText (x : Binary64) (hrest : EndsNumber rest) :
    scalar (floatText x ++ rest) = .ok (.float x, rest) := by
  cases x with
  | nan => rfl
  | infinite negative => cases negative <;> rfl
  | finite negative m q hc =>
    have hnumber := number_body negative hc hrest
    cases negative with
    | true => exact scalar_of_negative hnumber
    | false => exact scalar_of_number hnumber

end Json.Reader

end LintBundle
