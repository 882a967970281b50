import LintBundle.Number.Shortest
import LintBundle.Proofs.Digits
import LintBundle.Proofs.Rounding

/-!
# Proofs/Numerals — the shortest numeral of a number reads back as it

What a decimal numeral reads as depends on its value alone: zeros in front of its digits and behind
them do not count.  A candidate for the shortest numeral has been read back when it is taken, and
the exact expansion has the magnitude of the number, which rounds to itself.
-/

namespace LintBundle.Binary64

/-! ## Decimal numerals by their value -/

/-- The number of digits from the first that is not zero. -/
def significance (ds : List ℕ) : ℕ := (ds.dropWhile (· = 0)).length

theorem ofDecimal_eq (negative : Bool) (ds : List ℕ) (e : ℤ) :
    ofDecimal negative ds e =
      if Reading.ofDigits 10 ds = 0 ∨ (significance ds : ℤ) + e < -400 then zero negative
      else if 400 < (significance ds : ℤ) + e then .infinite negative
      else ofRatio negative (scale 10 (Reading.ofDigits 10 ds) 1 (-e)).1
        (scale 10 (Reading.ofDigits 10 ds) 1 (-e)).2 := by
  have hvalue : (ds.dropWhile (· = 0)).foldl (fun n d => 10 * n + d) 0 = Reading.ofDigits 10 ds :=
    Reading.ofDigits_dropWhile 10 ds
  simp only [ofDecimal, hvalue, significance, Bool.or_eq_true, decide_eq_true_eq]
  congr

/-- Zeros in front of the digits do not count. -/
@[simp] theorem ofDecimal_replicate_append (negative : Bool) (k : ℕ) (ds : List ℕ) (e : ℤ) :
    ofDecimal negative (List.replicate k 0 ++ ds) e = ofDecimal negative ds e := by
  have hsig : significance (List.replicate k 0 ++ ds) = significance ds := by
    rw [significance, List.dropWhile_append_of_pos (by simp), significance]
  rw [ofDecimal_eq, ofDecimal_eq, hsig, Reading.ofDigits_replicate_append]

/-- A digit that is not zero counts, and so do all behind it. -/
theorem significance_append {ds : List ℕ} (h : Reading.ofDigits 10 ds ≠ 0) (es : List ℕ) :
    significance (ds ++ es) = significance ds + es.length := by
  have hne : (ds.dropWhile (· = 0)).isEmpty = false := by
    rw [List.isEmpty_eq_false_iff]
    intro hnil
    rw [← Reading.ofDigits_dropWhile, hnil] at h
    exact h rfl
  rw [significance, List.dropWhile_append, hne, significance]
  exact List.length_append

/-- **Zeros behind the digits move the point.** -/
@[simp] theorem ofDecimal_append_replicate (negative : Bool) (ds : List ℕ) (k : ℕ) (e : ℤ) :
    ofDecimal negative (ds ++ List.replicate k 0) e = ofDecimal negative ds (e + k) := by
  have hpow : (10 : ℕ) ^ k ≠ 0 := by positivity
  by_cases hzero : Reading.ofDigits 10 ds = 0
  · rw [ofDecimal_eq, ofDecimal_eq, Reading.ofDigits_append_replicate, hzero]
    simp
  · have hsig : (significance (ds ++ List.replicate k 0) : ℤ) + e = significance ds + (e + k) := by
      rw [significance_append hzero, List.length_replicate]
      push_cast
      ring
    have hzero' : Reading.ofDigits 10 ds * 10 ^ k ≠ 0 := Nat.mul_ne_zero hzero hpow
    have hratio : ∀ n : ℕ, ofRatio negative (scale 10 (n * 10 ^ k) 1 (-e)).1
          (scale 10 (n * 10 ^ k) 1 (-e)).2
        = ofRatio negative (scale 10 n 1 (-(e + k))).1 (scale 10 n 1 (-(e + k))).2 := by
      intro n
      refine ofRatio_congr negative (scale_snd_pos (by decide) (by decide) _)
        (scale_snd_pos (by decide) (by decide) _) ?_
      rw [scale_div (by decide), scale_div (by decide), neg_neg, neg_neg]
      push_cast
      rw [zpow_add₀ (by norm_num), zpow_natCast]
      ring
    rw [ofDecimal_eq, ofDecimal_eq, hsig, Reading.ofDigits_append_replicate, hratio]
    simp only [hzero, hzero', false_or]

/-- The finite numbers lie far within the exponents that are read. -/
theorem magnitude_bounds {m : ℕ} {q : ℤ} (hm : m ≠ 0) (hc : Canonical m q) :
    (10 : ℚ) ^ (-400 : ℤ) ≤ magnitude m q ∧ magnitude m q < 10 ^ (400 : ℤ) := by
  obtain ⟨hsmall, hleast, hgreatest, -⟩ := hc
  have hone : (1 : ℚ) ≤ m := by exact_mod_cast Nat.one_le_iff_ne_zero.2 hm
  have hlt : (m : ℚ) < 2 ^ (53 : ℤ) := by exact_mod_cast hsmall
  constructor
  · have hpow : (2 : ℚ) ^ 1074 ≤ 10 ^ 400 := by
      have hnat : 2 ^ 1074 ≤ 10 ^ 400 := by decide +kernel
      exact_mod_cast hnat
    calc (10 : ℚ) ^ (-400 : ℤ) ≤ 2 ^ (-1074 : ℤ) := by
          rw [zpow_neg, zpow_neg, inv_le_inv₀ (by positivity) (by positivity)]
          exact hpow
      _ ≤ 2 ^ q := zpow_le_zpow_right₀ (by norm_num) hleast
      _ = 1 * 2 ^ q := (one_mul _).symm
      _ ≤ m * 2 ^ q := by gcongr
  · have hpow : (2 : ℚ) ^ 53 * 2 ^ 971 < 10 ^ 400 := by
      have hnat : 2 ^ 53 * 2 ^ 971 < 10 ^ 400 := by decide +kernel
      exact_mod_cast hnat
    calc (m : ℚ) * 2 ^ q < 2 ^ (53 : ℤ) * 2 ^ q := by gcongr
      _ ≤ 2 ^ (53 : ℤ) * 2 ^ (971 : ℤ) := by
        gcongr
        norm_num
      _ < 10 ^ (400 : ℤ) := hpow

/-- The digits of a number all count, and bound it. -/
theorem significance_decimalDigits {n : ℕ} (hn : n ≠ 0) :
    (10 : ℚ) ^ ((significance (decimalDigits n) : ℤ) - 1) ≤ n ∧
      (n : ℚ) < 10 ^ (significance (decimalDigits n) : ℤ) := by
  have hvalue := ofDigits_decimalDigits n
  have hlt := Reading.ofDigits_lt fun d (h : d ∈ decimalDigits n) => decimalDigits_lt h
  have hhead := head_decimalDigits hn
  cases hds : decimalDigits n with
  | nil => exact absurd hds (decimalDigits_ne_nil n)
  | cons d ds =>
    rw [hds] at hvalue hlt hhead
    have hd : d ≠ 0 := by simpa using hhead
    have hle := Reading.le_ofDigits_cons hd ds
    have hsig : significance (d :: ds) = ds.length + 1 := by
      rw [significance, List.dropWhile_cons_of_neg (by simpa using hd), List.length_cons]
    rw [hvalue] at hlt hle
    rw [hsig]
    push_cast
    rw [add_sub_cancel_right, zpow_natCast]
    exact ⟨by exact_mod_cast hle, by exact_mod_cast hlt⟩

/-- **A numeral with the magnitude of a number reads as it.** -/
theorem ofDecimal_magnitude (negative : Bool) {n m : ℕ} {q e : ℤ} (hm : m ≠ 0)
    (hc : Canonical m q) (h : (n : ℚ) * 10 ^ e = magnitude m q) :
    ofDecimal negative (decimalDigits n) e = .finite negative m q hc := by
  have hn : n ≠ 0 := by
    rintro rfl
    rw [Nat.cast_zero, zero_mul] at h
    exact hm (magnitude_eq_zero.1 h.symm)
  obtain ⟨hlow, hhigh⟩ := magnitude_bounds hm hc
  obtain ⟨hle, hlt⟩ := significance_decimalDigits hn
  have hpos : (0 : ℚ) < 10 ^ e := by positivity
  set k : ℤ := (significance (decimalDigits n) : ℤ) with hk
  have hleast : ¬ k + e < -400 := by
    intro hcontra
    have hbelow : magnitude m q < 10 ^ (-400 : ℤ) := by
      calc magnitude m q = n * 10 ^ e := h.symm
        _ < 10 ^ k * 10 ^ e := by gcongr
        _ = 10 ^ (k + e) := (zpow_add₀ (by norm_num) _ _).symm
        _ ≤ 10 ^ (-400 : ℤ) := zpow_le_zpow_right₀ (by norm_num) (by omega)
    linarith
  have hgreatest : ¬ 400 < k + e := by
    intro hcontra
    have habove : (10 : ℚ) ^ (400 : ℤ) ≤ magnitude m q := by
      calc (10 : ℚ) ^ (400 : ℤ) ≤ 10 ^ (k - 1 + e) :=
            zpow_le_zpow_right₀ (by norm_num) (by omega)
        _ = 10 ^ (k - 1) * 10 ^ e := zpow_add₀ (by norm_num) _ _
        _ ≤ n * 10 ^ e := by gcongr
        _ = magnitude m q := h
    linarith
  rw [ofDecimal_eq, ofDigits_decimalDigits, ← hk, if_neg (by simp [hn, hleast]), if_neg hgreatest]
  refine ofRatio_magnitude negative (scale_snd_pos (by decide) (by decide) _) hm hc ?_
  rw [scale_div (by decide), ← h]
  simp

/-! ## Numerals that name a number -/

/-- A numeral that reads as a number, with either sign. -/
def Numeral.Names (x : Numeral) (m : ℕ) (q : ℤ) : Prop :=
  ∀ (hc : Canonical m q) negative, x.read negative = .finite negative m q hc

/-- Digits of which the first is not zero. -/
structure Numeral.WellFormed (x : Numeral) : Prop where
  nonempty : x.digits ≠ []
  head : x.digits.head? ≠ some 0
  digits : ∀ d ∈ x.digits, d < 10

/-- Digits are those that are kept and the zeros behind them. -/
theorem digits_eq_append (ds : List ℕ) : ∃ k,
    ds = (ds.reverse.dropWhile (· = 0)).reverse ++ List.replicate k 0 := by
  have hzeros : ds.reverse.takeWhile (· = 0)
      = List.replicate (ds.reverse.takeWhile (· = 0)).length 0 := by
    refine List.eq_replicate_of_mem fun d hd => ?_
    simpa using List.all_eq_true.1 List.all_takeWhile d hd
  refine ⟨(ds.reverse.takeWhile (· = 0)).length, ?_⟩
  have hsplit : (ds.reverse.takeWhile (· = 0) ++ ds.reverse.dropWhile (· = 0)).reverse
      = ds.reverse.reverse := congrArg _ List.takeWhile_append_dropWhile
  rw [List.reverse_append, List.reverse_reverse, hzeros, List.reverse_replicate] at hsplit
  exact hsplit.symm

/-- A numeral without its trailing zeros reads as the one with them. -/
theorem read_ofScaled (negative : Bool) (n : ℕ) (e : ℤ) :
    (Numeral.ofScaled n e).read negative = ofDecimal negative (decimalDigits n) e := by
  obtain ⟨k, hk⟩ := digits_eq_append (decimalDigits n)
  have hlength := congrArg List.length hk
  rw [List.length_append, List.length_replicate] at hlength
  conv_rhs => rw [hk, ofDecimal_append_replicate]
  rw [Numeral.read, Numeral.ofScaled]
  congr 1
  simp only
  omega

theorem wellFormed_ofScaled {n : ℕ} (hn : n ≠ 0) (e : ℤ) : (Numeral.ofScaled n e).WellFormed := by
  obtain ⟨k, hk⟩ := digits_eq_append (decimalDigits n)
  have hhead := head_decimalDigits hn
  have hne := decimalDigits_ne_nil n
  have hlt : ∀ d ∈ decimalDigits n, d < 10 := fun d => decimalDigits_lt
  rw [hk] at hhead hne hlt
  have hkept : ((decimalDigits n).reverse.dropWhile (· = 0)).reverse ≠ [] := by
    intro hnil
    rw [hnil, List.nil_append] at hhead hne
    cases k with
    | zero => exact hne rfl
    | succ k => exact hhead rfl
  refine ⟨hkept, ?_, fun d hd => hlt d (List.mem_append_left _ hd)⟩
  rwa [List.head?_append_of_ne_nil _ hkept] at hhead

/-- A scaled number with a name is not zero. -/
theorem ne_zero_of_names {n m : ℕ} {q e : ℤ} (hm : m ≠ 0) (hc : Canonical m q)
    (h : (Numeral.ofScaled n e).Names m q) : n ≠ 0 := by
  rintro rfl
  have hread := h hc false
  rw [read_ofScaled, ofDecimal_eq, ofDigits_decimalDigits, if_pos (.inl rfl)] at hread
  have hzero : m = 0 := by
    injection hread with _ hzero
    exact hzero.symm
  exact hm hzero

/-! ## The shortest numeral -/

/-- A numeral that reads as a number without a sign names it. -/
theorem names_of_reads {x : Numeral} {m : ℕ} {q : ℤ}
    (h : (match x.read false with
      | finite _ m' q' _ => decide (m' = m) && decide (q' = q)
      | _ => false) = true) : x.Names m q := by
  intro hc negative
  have hsign : x.read negative = (x.read false).withSign negative := ofDecimal_withSign ..
  rw [hsign]
  cases hx : x.read false with
  | nan => simp [hx] at h
  | infinite sign => simp [hx] at h
  | finite sign m' q' hc' =>
    obtain ⟨rfl, rfl⟩ : m' = m ∧ q' = q := by simpa [hx] using h
    rfl

/-- A quotient is rounded to one of its neighbours. -/
theorem roundDiv_neighbour (num den : ℕ) :
    roundDiv num den = num / den ∨ roundDiv num den = num / den + 1 := by
  have hmod := Nat.mod_two_eq_zero_or_one (num / den)
  unfold roundDiv
  simp only
  split
  · exact .inl rfl
  · split
    · exact .inr rfl
    · omega

/-- **A candidate names the number** it is a candidate for. -/
theorem candidate_names {m : ℕ} {q : ℤ} {count : ℕ} {x : Numeral}
    (h : candidate m q count = some x) : ∃ n e, x = .ofScaled n e ∧ x.Names m q := by
  simp only [candidate] at h
  split at h
  · rename_i hlow hhigh
    obtain rfl := Option.some.inj h
    refine ⟨_, _, rfl, ?_⟩
    rcases roundDiv_neighbour _ _ with hround | hround
    · rw [hround]
      exact names_of_reads hlow
    · rw [hround]
      exact names_of_reads hhigh
  · rename_i hlow _
    obtain rfl := Option.some.inj h
    exact ⟨_, _, rfl, names_of_reads hlow⟩
  · rename_i _ hhigh
    obtain rfl := Option.some.inj h
    exact ⟨_, _, rfl, names_of_reads hhigh⟩
  · cases h

/-- **The exact expansion names the number.** -/
theorem exactNumeral_names {m : ℕ} (hm : m ≠ 0) (q : ℤ) :
    ∃ n e, exactNumeral m q = .ofScaled n e ∧ (exactNumeral m q).Names m q := by
  unfold exactNumeral
  split
  · rename_i hq
    refine ⟨_, _, rfl, fun hc negative => ?_⟩
    rw [read_ofScaled]
    refine ofDecimal_magnitude negative hm hc ?_
    obtain ⟨k, rfl⟩ := Int.eq_ofNat_of_zero_le hq
    simp [magnitude]
  · rename_i hq
    refine ⟨_, _, rfl, fun hc negative => ?_⟩
    rw [read_ofScaled]
    refine ofDecimal_magnitude negative hm hc ?_
    obtain ⟨k, hk⟩ := Int.eq_ofNat_of_zero_le (a := -q) (by omega)
    obtain rfl : q = -(k : ℤ) := by omega
    have hpow : (5 : ℚ) ^ k * ((10 : ℚ) ^ k)⁻¹ = ((2 : ℚ) ^ k)⁻¹ := by
      rw [← div_eq_mul_inv, div_eq_iff (by positivity), ← div_eq_inv_mul,
        eq_div_iff (by positivity),
        ← mul_pow]
      norm_num
    simp only [neg_neg, Int.toNat_natCast, Nat.pow_eq, zpow_neg, zpow_natCast, magnitude]
    push_cast
    rw [mul_assoc, hpow]

/-- **The shortest numeral of a number reads as it**, and begins with no zero. -/
theorem shortest_names {m : ℕ} {q : ℤ} (hm : m ≠ 0) (hc : Canonical m q) :
    (shortest m q).Names m q ∧ (shortest m q).WellFormed := by
  have hscaled : ∃ n e, shortest m q = .ofScaled n e ∧ (shortest m q).Names m q := by
    unfold shortest
    cases hfound : (List.range 17).findSome? fun i => candidate m q (i + 1) with
    | none => exact exactNumeral_names hm q
    | some x =>
      obtain ⟨i, _, hi⟩ := List.exists_of_findSome?_eq_some hfound
      exact candidate_names hi
  obtain ⟨n, e, heq, hnames⟩ := hscaled
  refine ⟨hnames, ?_⟩
  rw [heq] at hnames ⊢
  exact wellFormed_ofScaled (ne_zero_of_names hm hc hnames) e

end LintBundle.Binary64
