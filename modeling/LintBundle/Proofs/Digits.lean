import LintBundle.Json.Reader
import Mathlib.Tactic.Ring

/-!
# Proofs/Digits — decimal digits, as lists and as text

A whole number is the value of its decimal digits, and the first of them is zero for zero only.
Digits written one after the other are read back up to the first character that is none.
-/

namespace LintBundle

/-! ## The value of digits -/

namespace Reading

theorem ofDigits_append (base : ℕ) (ds es : List ℕ) :
    ofDigits base (ds ++ es) = ofDigits base ds * base ^ es.length + ofDigits base es := by
  have hfold : ∀ n, es.foldl (fun n d => base * n + d) n
      = n * base ^ es.length + es.foldl (fun n d => base * n + d) 0 := by
    intro n
    induction es generalizing n with
    | nil => simp
    | cons e es ih =>
      rw [List.foldl_cons, List.foldl_cons, ih (base * n + e), ih (base * 0 + e),
        List.length_cons, pow_succ]
      ring
  rw [ofDigits, List.foldl_append]
  exact hfold _

/-- Zeros in front do not count. -/
@[simp] theorem ofDigits_zero_cons (base : ℕ) (ds : List ℕ) :
    ofDigits base (0 :: ds) = ofDigits base ds := by
  rw [ofDigits, List.foldl_cons, Nat.mul_zero]
  rfl

theorem ofDigits_replicate_append (base k : ℕ) (ds : List ℕ) :
    ofDigits base (List.replicate k 0 ++ ds) = ofDigits base ds := by
  induction k with
  | zero => rfl
  | succ k ih => rw [List.replicate_succ, List.cons_append, ofDigits_zero_cons, ih]

@[simp] theorem ofDigits_append_replicate (base k : ℕ) (ds : List ℕ) :
    ofDigits base (ds ++ List.replicate k 0) = ofDigits base ds * base ^ k := by
  have hzero : ofDigits base (List.replicate k 0) = 0 := by
    have hdrop := ofDigits_replicate_append base k []
    rwa [List.append_nil] at hdrop
  rw [ofDigits_append, hzero, List.length_replicate, Nat.add_zero]

@[simp] theorem ofDigits_dropWhile (base : ℕ) (ds : List ℕ) :
    ofDigits base (ds.dropWhile (· = 0)) = ofDigits base ds := by
  induction ds with
  | nil => rfl
  | cons d ds ih =>
    by_cases hd : d = 0
    · rw [hd, List.dropWhile_cons_of_pos (by simp), ih, ofDigits_zero_cons]
    · rw [List.dropWhile_cons_of_neg (by simp [hd])]

theorem ofDigits_cons (base d : ℕ) (ds : List ℕ) :
    ofDigits base (d :: ds) = d * base ^ ds.length + ofDigits base ds := by
  have happend := ofDigits_append base [d] ds
  have hone : ofDigits base [d] = d := by simp [ofDigits]
  rwa [hone] at happend

/-- Digits are worth less than the next power of ten. -/
theorem ofDigits_lt {ds : List ℕ} (h : ∀ d ∈ ds, d < 10) : ofDigits 10 ds < 10 ^ ds.length := by
  induction ds with
  | nil => exact Nat.one_pos
  | cons d ds ih =>
    have hlt := ih fun d' hd' => h d' (List.mem_cons_of_mem _ hd')
    have hd : d ≤ 9 := Nat.le_of_lt_succ (h d (List.mem_cons_self ..))
    have hmul : d * 10 ^ ds.length ≤ 9 * 10 ^ ds.length := Nat.mul_le_mul_right _ hd
    rw [ofDigits_cons, List.length_cons, pow_succ]
    omega

/-- Digits that begin with no zero are worth no less than the power of ten of the first. -/
theorem le_ofDigits_cons {d : ℕ} (hd : d ≠ 0) (ds : List ℕ) :
    10 ^ ds.length ≤ ofDigits 10 (d :: ds) := by
  have hmul : 1 * 10 ^ ds.length ≤ d * 10 ^ ds.length :=
    Nat.mul_le_mul_right _ (Nat.one_le_iff_ne_zero.2 hd)
  rw [ofDigits_cons]
  omega

end Reading

/-! ## The digits of a number -/

theorem digitChar_toNat {c : Char} (h : c.isDigit = true) :
    c.toNat - '0'.toNat < 10 ∧ Char.ofNat ('0'.toNat + (c.toNat - '0'.toNat)) = c := by
  have hrange : 48 ≤ c.toNat ∧ c.toNat ≤ 57 := by
    simp only [Char.isDigit, ge_iff_le, Bool.and_eq_true, decide_eq_true_eq] at h
    exact ⟨h.1, h.2⟩
  have hzero : '0'.toNat = 48 := rfl
  refine ⟨by omega, ?_⟩
  rw [hzero, Nat.add_sub_cancel' hrange.1]
  exact Char.ofNat_toNat c

/-- **A number is the value of its digits.** -/
@[simp] theorem ofDigits_decimalDigits (n : ℕ) : Reading.ofDigits 10 (decimalDigits n) = n := by
  rw [decimalDigits, Reading.ofDigits, List.foldl_map]
  exact Nat.ofDigitChars_ten_toDigits

theorem decimalDigits_lt {n d : ℕ} (h : d ∈ decimalDigits n) : d < 10 := by
  obtain ⟨c, hc, rfl⟩ := List.mem_map.1 h
  exact (digitChar_toNat (Nat.isDigit_of_mem_toDigits (by decide) (by decide) hc)).1

theorem decimalDigits_ne_nil (n : ℕ) : decimalDigits n ≠ [] := by
  simp [decimalDigits, Nat.toDigits_ne_nil]

/-- The first digit of a number is zero for zero only. -/
theorem head_decimalDigits {n : ℕ} (hn : n ≠ 0) : (decimalDigits n).head? ≠ some 0 := by
  intro hhead
  obtain ⟨ds, hds⟩ : ∃ ds, decimalDigits n = 0 :: ds := List.head?_eq_some_iff.1 hhead
  have hvalue : Reading.ofDigits 10 ds = n := by
    rw [← Reading.ofDigits_zero_cons, ← hds, ofDigits_decimalDigits]
  have hlength : (Nat.toDigits 10 n).length = ds.length + 1 := by
    simpa [decimalDigits] using congrArg List.length hds
  cases ds with
  | nil => exact hn hvalue.symm
  | cons d ds =>
    have hlt : Reading.ofDigits 10 (d :: ds) < 10 ^ (d :: ds).length :=
      Reading.ofDigits_lt fun d' hd' => decimalDigits_lt (hds ▸ List.mem_cons_of_mem _ hd')
    rw [hvalue, ← Nat.length_toDigits_le_iff (by decide) (by simp), hlength] at hlt
    omega

/-- Digits as text. -/
def digitChars (ds : List ℕ) : List Char := ds.map fun d => Char.ofNat ('0'.toNat + d)

@[simp] theorem digitChars_decimalDigits (n : ℕ) :
    digitChars (decimalDigits n) = decimalText n := by
  rw [digitChars, decimalDigits, decimalText, List.map_map]
  refine (List.map_congr_left fun c hc => ?_).trans (List.map_id _)
  exact (digitChar_toNat (Nat.isDigit_of_mem_toDigits (by decide) (by decide) hc)).2

/-- What is no digit is in no number written out. -/
theorem notMem_decimalText {c : Char} (h : c.isDigit = false) (n : ℕ) : c ∉ decimalText n := by
  intro hc
  have hdigit : c.isDigit = true := Nat.isDigit_of_mem_toDigits (by decide) (by decide) hc
  simp [h] at hdigit

/-! ## Reading digits -/

namespace Json.Reader

/-- A text that does not go on with a digit. -/
def EndsDigits (rest : List Char) : Prop := ∀ c ∈ rest.head?, ¬ ('0' ≤ c ∧ c ≤ '9')

theorem spanDigits_of_ends {rest : List Char} (h : EndsDigits rest) :
    spanDigits rest = ([], rest) := by
  cases rest with
  | nil => rfl
  | cons c rest =>
    have hc : ¬ ('0' ≤ c ∧ c ≤ '9') := h c rfl
    rw [spanDigits, if_neg (by simpa using hc)]

/-- **Digits are read back** up to the first character that is none. -/
theorem spanDigits_digitChars {ds : List ℕ} (h : ∀ d ∈ ds, d < 10) {rest : List Char}
    (hrest : EndsDigits rest) : spanDigits (digitChars ds ++ rest) = (ds, rest) := by
  induction ds with
  | nil => exact spanDigits_of_ends hrest
  | cons d ds ih =>
    have hd : d < 10 := h d (List.mem_cons_self ..)
    have hchar : ('0' ≤ Char.ofNat ('0'.toNat + d) && Char.ofNat ('0'.toNat + d) ≤ '9') = true ∧
        (Char.ofNat ('0'.toNat + d)).toNat - '0'.toNat = d := by
      have hall : ∀ d < 10,
          ('0' ≤ Char.ofNat ('0'.toNat + d) && Char.ofNat ('0'.toNat + d) ≤ '9') = true ∧
          (Char.ofNat ('0'.toNat + d)).toNat - '0'.toNat = d := by decide
      exact hall d hd
    have hrec := ih fun d' hd' => h d' (List.mem_cons_of_mem _ hd')
    change spanDigits (Char.ofNat ('0'.toNat + d) :: (digitChars ds ++ rest)) = _
    rw [spanDigits, if_pos hchar.1, hrec, hchar.2]

end Json.Reader

end LintBundle
