import LintBundle.Number.Binary64
import Mathlib.Algebra.Order.Field.Power
import Mathlib.Data.Rat.Cast.Order
import Mathlib.Tactic.FieldSimp
import Mathlib.Tactic.Linarith
import Mathlib.Tactic.NormNum
import Mathlib.Tactic.Positivity
import Mathlib.Tactic.Ring

/-!
# Proofs/Magnitude — the rational numbers that finite numbers denote

Quotients of whole numbers stand for rationals all through the arithmetic; here they are read as
such.  A canonical pair names its magnitude alone: `m · 2^q` with 53 bits has one exponent.
-/

namespace LintBundle.Binary64

/-- The magnitude `m · 2^q`. -/
def magnitude (m : ℕ) (q : ℤ) : ℚ := m * 2 ^ q

theorem magnitude_nonneg (m : ℕ) (q : ℤ) : 0 ≤ magnitude m q := by
  unfold magnitude
  positivity

@[simp] theorem magnitude_eq_zero {m : ℕ} {q : ℤ} : magnitude m q = 0 ↔ m = 0 := by
  have h : (2 : ℚ) ^ q ≠ 0 := zpow_ne_zero q (by norm_num)
  simp [magnitude, h]

/-! ## Scaled quotients -/

theorem scale_snd_pos {base num den : ℕ} (hb : 0 < base) (hd : 0 < den) (e : ℤ) :
    0 < (scale base num den e).2 := by
  unfold scale
  split
  · exact Nat.mul_pos hd (Nat.pow_pos hb)
  · exact hd

/-- **Scaling multiplies by a power of the base.** -/
theorem scale_div {base : ℕ} (hb : 0 < base) (num den : ℕ) (e : ℤ) :
    ((scale base num den e).1 : ℚ) / (scale base num den e).2 = num / den * (base : ℚ) ^ (-e) := by
  have hb' : (base : ℚ) ≠ 0 := by exact_mod_cast hb.ne'
  unfold scale
  split
  · rename_i he
    obtain ⟨n, rfl⟩ := Int.eq_ofNat_of_zero_le he
    simp only [Int.toNat_natCast, Nat.pow_eq, Nat.cast_mul, Nat.cast_pow, zpow_neg, zpow_natCast]
    field_simp
  · rename_i he
    obtain ⟨n, hn⟩ := Int.eq_ofNat_of_zero_le (a := -e) (by omega)
    rw [hn]
    simp only [Int.toNat_natCast, Nat.pow_eq, Nat.cast_mul, Nat.cast_pow, zpow_natCast]
    ring

theorem ratio_snd_pos (m : ℕ) (q : ℤ) : 0 < (ratio m q).2 :=
  scale_snd_pos (by decide) (by decide) _

theorem ratio_div (m : ℕ) (q : ℤ) : ((ratio m q).1 : ℚ) / (ratio m q).2 = magnitude m q := by
  rw [ratio, scale_div (by decide)]
  simp [magnitude]

/-! ## One name for each magnitude -/

/-- Of two canonical pairs with one magnitude, none has the smaller exponent. -/
theorem exponent_le_of_magnitude_eq {m m' : ℕ} {q q' : ℤ} (h : Canonical m q)
    (h' : Canonical m' q') (heq : magnitude m q = magnitude m' q') : q' ≤ q := by
  by_contra hlt
  obtain ⟨n, hn⟩ := Int.eq_ofNat_of_zero_le (a := q' - q - 1) (by omega)
  have hq' : q' = q + ((n + 1 : ℕ) : ℤ) := by push_cast; omega
  obtain ⟨hm, hq, -, -⟩ := h
  obtain ⟨-, -, -, hbig⟩ := h'
  have hbig : Nat.pow 2 52 ≤ m' := hbig.resolve_right (by omega)
  have hpos : (0 : ℚ) < 2 ^ q := by positivity
  have hcancel : (m : ℚ) = m' * 2 ^ (n + 1) := by
    have hmul : (m : ℚ) * 2 ^ q = m' * 2 ^ (n + 1) * 2 ^ q := by
      calc (m : ℚ) * 2 ^ q = m' * 2 ^ q' := heq
        _ = m' * 2 ^ (n + 1) * 2 ^ q := by
          rw [hq', zpow_add₀ (by norm_num), zpow_natCast]; ring
    exact mul_right_cancel₀ hpos.ne' hmul
  have hnat : m = m' * 2 ^ (n + 1) := by exact_mod_cast hcancel
  have hpow : 2 ≤ 2 ^ (n + 1) := by
    rw [pow_succ]
    have := Nat.one_le_two_pow (n := n)
    omega
  have : Nat.pow 2 52 * 2 ≤ m' * 2 ^ (n + 1) := Nat.mul_le_mul hbig hpow
  have hsize : Nat.pow 2 53 = Nat.pow 2 52 * 2 := by norm_num
  omega

/-- **A canonical pair is determined by its magnitude.** -/
theorem canonical_ext {m m' : ℕ} {q q' : ℤ} (h : Canonical m q) (h' : Canonical m' q')
    (heq : magnitude m q = magnitude m' q') : m = m' ∧ q = q' := by
  have hq : q = q' :=
    le_antisymm (exponent_le_of_magnitude_eq h' h heq.symm) (exponent_le_of_magnitude_eq h h' heq)
  subst hq
  refine ⟨?_, rfl⟩
  have hpos : (2 : ℚ) ^ q ≠ 0 := zpow_ne_zero q (by norm_num)
  exact_mod_cast mul_right_cancel₀ hpos heq

/-! ## Signed numbers -/

/-- The rational number that a sign and a magnitude denote. -/
def rational (negative : Bool) (m : ℕ) (q : ℤ) : ℚ :=
  if negative then -magnitude m q else magnitude m q

theorem equalsInt_finite {negative : Bool} {m : ℕ} {q : ℤ} (h : Canonical m q) (n : ℤ) :
    (finite negative m q h).equalsInt n = true ↔ rational negative m q = n := by
  have hd : ((ratio m q).2 : ℚ) ≠ 0 := by exact_mod_cast (ratio_snd_pos m q).ne'
  have hcross : (finite negative m q h).equalsInt n = true
      ↔ signed negative (ratio m q).1 = n * (ratio m q).2 := decide_eq_true_iff
  rw [hcross, rational, ← ratio_div m q, ← neg_div]
  cases negative
  · simp only [signed, Bool.false_eq_true, if_false, div_eq_iff hd]
    exact_mod_cast Iff.rfl
  · simp only [signed, if_true, div_eq_iff hd]
    exact_mod_cast Iff.rfl

/-- **Equal numbers denote one rational**, the two zeros included. -/
theorem same_finite {a b : Bool} {m m' : ℕ} {q q' : ℤ} (h : Canonical m q) (h' : Canonical m' q') :
    (finite a m q h).same (finite b m' q' h') = true ↔ rational a m q = rational b m' q' := by
  have hsame : (finite a m q h).same (finite b m' q' h') = true
      ↔ (a = b ∧ m = m' ∧ q = q') ∨ (m = 0 ∧ m' = 0) := by
    simp [same, isZero]
  have hm := magnitude_nonneg m q
  have hm' := magnitude_nonneg m' q'
  rw [hsame]
  constructor
  · rintro (⟨rfl, rfl, rfl⟩ | ⟨rfl, rfl⟩)
    · rfl
    · simp [rational, magnitude]
  · intro heq
    by_cases hab : a = b
    · subst hab
      have hmag : magnitude m q = magnitude m' q' := by
        cases a <;> simpa [rational] using heq
      exact .inl ⟨rfl, canonical_ext h h' hmag⟩
    · have hopp : magnitude m q = -magnitude m' q' := by
        cases a <;> cases b <;> simp_all [rational, neg_eq_iff_eq_neg]
      have hzero : magnitude m q = 0 := by linarith
      have hzero' : magnitude m' q' = 0 := by linarith
      exact .inr ⟨magnitude_eq_zero.1 hzero, magnitude_eq_zero.1 hzero'⟩

end LintBundle.Binary64
