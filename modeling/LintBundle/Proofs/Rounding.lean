import LintBundle.Proofs.Magnitude
import Mathlib.Data.Nat.Log

/-!
# Proofs/Rounding — a quotient is rounded by its value

The exponent that `ofRatio` rounds at is the only one at which the quotient is normal (`Normal`),
and rounding at an exponent does not depend on how the quotient is written.  So `ofRatio` is a
function of the rational number, and a number of the format is rounded to itself.
-/

namespace LintBundle.Binary64

/-! ## Rounding to whole numbers -/

/-- A common factor does not count. -/
theorem roundDiv_mul_right {c : ℕ} (hc : 0 < c) (num den : ℕ) :
    roundDiv (num * c) (den * c) = roundDiv num den := by
  have hmod : num * c % (den * c) = num % den * c := Nat.mul_mod_mul_right ..
  have hlow : num * c / (den * c) = num / den := Nat.mul_div_mul_right _ _ hc
  have htwice : 2 * (num % den * c) = 2 * (num % den) * c := (Nat.mul_assoc ..).symm
  simp only [roundDiv, hmod, hlow, htwice, Nat.mul_lt_mul_right hc]

/-- **Equal quotients are rounded alike.** -/
theorem roundDiv_congr {num den num' den' : ℕ} (hd : 0 < den) (hd' : 0 < den')
    (h : (num : ℚ) / den = num' / den') : roundDiv num den = roundDiv num' den' := by
  have hcross : num * den' = num' * den := by
    rw [div_eq_div_iff (by exact_mod_cast hd.ne') (by exact_mod_cast hd'.ne')] at h
    exact_mod_cast h
  rw [← roundDiv_mul_right hd' num den, ← roundDiv_mul_right hd num' den', hcross,
    Nat.mul_comm den den']

/-- A whole number is rounded to itself. -/
theorem roundDiv_of_div_eq {num den m : ℕ} (hd : 0 < den) (h : (num : ℚ) / den = m) :
    roundDiv num den = m := by
  have hone : roundDiv num den = roundDiv m 1 :=
    roundDiv_congr hd Nat.one_pos (by simpa using h)
  rw [hone]
  simp [roundDiv, Nat.mod_one]

/-! ## The exponent of a quotient -/

/-- At this exponent a number has 53 bits, or fewer at the least one. -/
structure Normal (r : ℚ) (e : ℤ) : Prop where
  least : -1074 ≤ e
  small : r < 2 ^ 53 * 2 ^ e
  large : 2 ^ 52 * 2 ^ e ≤ r ∨ e = -1074

theorem Normal.le {r : ℚ} {e e' : ℤ} (h : Normal r e) (h' : Normal r e') : e' ≤ e := by
  by_contra hlt
  have hlarge := h'.large.resolve_right (by have := h.least; omega)
  have hpow : (2 : ℚ) ^ 53 * 2 ^ e ≤ 2 ^ 52 * 2 ^ e' := by
    have hstep : (2 : ℚ) ^ (e + 1) ≤ 2 ^ e' := zpow_le_zpow_right₀ (by norm_num) (by omega)
    rw [zpow_add₀ (by norm_num), zpow_one] at hstep
    linarith
  have hsmall := h.small
  linarith

/-- **A number is normal at one exponent.** -/
theorem Normal.unique {r : ℚ} {e e' : ℤ} (h : Normal r e) (h' : Normal r e') : e = e' :=
  le_antisymm (h'.le h) (h.le h')

theorem normal_magnitude {m : ℕ} {q : ℤ} (h : Canonical m q) : Normal (magnitude m q) q where
  least := h.2.1
  small := by
    have hm : (m : ℚ) < 2 ^ 53 := by exact_mod_cast h.1
    have hpos : (0 : ℚ) < 2 ^ q := by positivity
    exact mul_lt_mul_of_pos_right hm hpos
  large := by
    refine h.2.2.2.imp_left fun hm => ?_
    have hm : (2 : ℚ) ^ 52 ≤ m := by exact_mod_cast hm
    have hpos : (0 : ℚ) ≤ 2 ^ q := by positivity
    exact mul_le_mul_of_nonneg_right hm hpos

/-- A quotient lies between the powers of two that its logarithms give. -/
theorem quotient_bounds {num den : ℕ} (hn : 0 < num) (hd : 0 < den) :
    (2 : ℚ) ^ ((num.log2 : ℤ) - den.log2 - 1) ≤ num / den ∧
      (num : ℚ) / den < 2 ^ ((num.log2 : ℤ) - den.log2 + 1) := by
  have hd' : (0 : ℚ) < den := by exact_mod_cast hd
  have hnum : (2 : ℚ) ^ (num.log2 : ℤ) ≤ num := by
    exact_mod_cast Nat.log2_self_le hn.ne'
  have hnum' : (num : ℚ) < 2 ^ ((num.log2 : ℤ) + 1) := by
    exact_mod_cast Nat.lt_log2_self (n := num)
  have hden : (2 : ℚ) ^ (den.log2 : ℤ) ≤ den := by
    exact_mod_cast Nat.log2_self_le hd.ne'
  have hden' : (den : ℚ) < 2 ^ ((den.log2 : ℤ) + 1) := by
    exact_mod_cast Nat.lt_log2_self (n := den)
  constructor
  · rw [le_div_iff₀ hd']
    calc (2 : ℚ) ^ ((num.log2 : ℤ) - den.log2 - 1) * den
        ≤ 2 ^ ((num.log2 : ℤ) - den.log2 - 1) * 2 ^ ((den.log2 : ℤ) + 1) := by gcongr
      _ = 2 ^ (num.log2 : ℤ) := by
        rw [← zpow_add₀ (by norm_num)]
        congr 1
        ring
      _ ≤ num := hnum
  · rw [div_lt_iff₀ hd']
    calc (num : ℚ) < 2 ^ ((num.log2 : ℤ) + 1) := hnum'
      _ = 2 ^ ((num.log2 : ℤ) - den.log2 + 1) * 2 ^ (den.log2 : ℤ) := by
        rw [← zpow_add₀ (by norm_num)]
        congr 1
        ring
      _ ≤ 2 ^ ((num.log2 : ℤ) - den.log2 + 1) * den := by gcongr

/-- A larger exponent is reached where the least one is asked for. -/
theorem normal_max {r : ℚ} {e : ℤ} (hsmall : r < 2 ^ 53 * 2 ^ e) (hlarge : 2 ^ 52 * 2 ^ e ≤ r) :
    Normal r (max e (-1074)) where
  least := le_max_right ..
  small := by
    have hpow : (2 : ℚ) ^ e ≤ 2 ^ max e (-1074) :=
      zpow_le_zpow_right₀ (by norm_num) (le_max_left ..)
    linarith
  large := by
    by_cases he : -1074 ≤ e
    · rw [max_eq_left he]
      exact .inl hlarge
    · exact .inr (max_eq_right (by omega))

/-- Whether a quotient, scaled, has less than 53 digits. -/
theorem scale_lt_iff {den : ℕ} (hd : 0 < den) (num : ℕ) (q : ℤ) :
    (scale 2 num den q).1 / (scale 2 num den q).2 < Nat.pow 2 52
      ↔ (num : ℚ) / den < 2 ^ 52 * 2 ^ q := by
  have hpos : 0 < (scale 2 num den q).2 := scale_snd_pos (by decide) hd q
  have hpos' : (0 : ℚ) < (scale 2 num den q).2 := by exact_mod_cast hpos
  have hscale := @scale_div 2 (by decide) num den q
  have hcancel : (num : ℚ) / den * 2 ^ (-q) < 2 ^ 52 ↔ (num : ℚ) / den < 2 ^ 52 * 2 ^ q := by
    rw [zpow_neg, ← div_eq_mul_inv, div_lt_iff₀ (by positivity)]
  rw [← hcancel, Nat.div_lt_iff_lt_mul hpos]
  push_cast at hscale
  rw [← hscale, div_lt_iff₀ hpos']
  exact_mod_cast Iff.rfl

/-- **The exponent of a quotient is the one at which it is normal.** -/
theorem exponent_normal {num den : ℕ} (hn : 0 < num) (hd : 0 < den) :
    Normal (num / den) (exponent num den) := by
  obtain ⟨hlow, hhigh⟩ := quotient_bounds hn hd
  set q : ℤ := (num.log2 : ℤ) - den.log2 - 52 with hq
  have hiff := scale_lt_iff hd num q
  have hstep : (2 : ℚ) ^ q = 2 * 2 ^ (q - 1) := by
    rw [← zpow_one_add₀ (by norm_num)]
    congr 1
    ring
  have hlow' : (2 : ℚ) ^ 52 * 2 ^ (q - 1) ≤ num / den := by
    refine le_of_eq_of_le ?_ hlow
    rw [← zpow_natCast, ← zpow_add₀ (by norm_num)]
    congr 1
    push_cast
    omega
  have hhigh' : (num : ℚ) / den < 2 ^ 53 * 2 ^ q := by
    refine lt_of_lt_of_eq hhigh ?_
    rw [← zpow_natCast, ← zpow_add₀ (by norm_num)]
    congr 1
    push_cast
    omega
  have hexp : exponent num den
      = max (if (num : ℚ) / den < 2 ^ 52 * 2 ^ q then q - 1 else q) (-1074) := by
    simp only [exponent, ← hq, hiff]
  rw [hexp]
  split
  · rename_i hlt
    refine normal_max ?_ hlow'
    linarith
  · rename_i hge
    exact normal_max hhigh' (not_lt.1 hge)

/-! ## Rounding to the format -/

/-- **Equal quotients round to one number.** -/
theorem ofRatio_congr (negative : Bool) {num den num' den' : ℕ} (hd : 0 < den) (hd' : 0 < den')
    (h : (num : ℚ) / den = num' / den') :
    ofRatio negative num den = ofRatio negative num' den' := by
  have hcross : num * den' = num' * den := by
    rw [div_eq_div_iff (by exact_mod_cast hd.ne') (by exact_mod_cast hd'.ne')] at h
    exact_mod_cast h
  by_cases hn : num = 0
  · have hn' : num' = 0 := by
      rw [hn, Nat.zero_mul] at hcross
      exact (Nat.mul_eq_zero.1 hcross.symm).resolve_right hd.ne'
    rw [hn, hn']
    rfl
  · have hn' : num' ≠ 0 := by
      rintro rfl
      rw [Nat.zero_mul] at hcross
      exact hn ((Nat.mul_eq_zero.1 hcross).resolve_right hd'.ne')
    have hexp : exponent num den = exponent num' den' :=
      (exponent_normal (Nat.pos_of_ne_zero hn) hd).unique
        (h ▸ exponent_normal (Nat.pos_of_ne_zero hn') hd')
    have hround : roundDiv (scale 2 num den (exponent num' den')).1
          (scale 2 num den (exponent num' den')).2
        = roundDiv (scale 2 num' den' (exponent num' den')).1
          (scale 2 num' den' (exponent num' den')).2 :=
      roundDiv_congr (scale_snd_pos (by decide) hd _) (scale_snd_pos (by decide) hd' _) (by
        rw [scale_div (by decide), scale_div (by decide), h])
    simp only [ofRatio, if_neg hn, if_neg hn', hexp, hround]

/-- **A number of the format rounds to itself.** -/
theorem ofRatio_magnitude (negative : Bool) {num den m : ℕ} {q : ℤ} (hd : 0 < den) (hm : m ≠ 0)
    (hc : Canonical m q) (h : (num : ℚ) / den = magnitude m q) :
    ofRatio negative num den = .finite negative m q hc := by
  have hn : num ≠ 0 := by
    rintro rfl
    rw [Nat.cast_zero, zero_div] at h
    exact hm (magnitude_eq_zero.1 h.symm)
  have hexp : exponent num den = q :=
    (exponent_normal (Nat.pos_of_ne_zero hn) hd).unique (h ▸ normal_magnitude hc)
  have hround : roundDiv (scale 2 num den q).1 (scale 2 num den q).2 = m := by
    refine roundDiv_of_div_eq (scale_snd_pos (by decide) hd _) ?_
    rw [scale_div (by decide), h, magnitude, mul_assoc]
    push_cast
    rw [← zpow_add₀ (by norm_num)]
    simp
  have hpack : pack negative m q = .finite negative m q hc := by
    have hmax : m ≠ Nat.pow 2 53 := hc.1.ne
    simp only [pack, if_neg hmax, dif_pos hc]
  simp only [ofRatio, if_neg hn, hexp, hround, hpack]

/-! ## Signs -/

/-- A number with another sign. -/
def withSign (negative : Bool) : Binary64 → Binary64
  | nan => nan
  | infinite _ => .infinite negative
  | finite _ m q h => .finite negative m q h

theorem pack_withSign (negative : Bool) (m : ℕ) (q : ℤ) :
    pack negative m q = (pack false m q).withSign negative := by
  unfold pack
  split
  split <;> rfl

/-- A sign does not take part in rounding. -/
theorem ofRatio_withSign (negative : Bool) (num den : ℕ) :
    ofRatio negative num den = (ofRatio false num den).withSign negative := by
  unfold ofRatio
  split
  · rfl
  · exact pack_withSign ..

theorem ofDecimal_withSign (negative : Bool) (digits : List ℕ) (e : ℤ) :
    ofDecimal negative digits e = (ofDecimal false digits e).withSign negative := by
  unfold ofDecimal
  simp only
  split
  · rfl
  · split
    · rfl
    · exact ofRatio_withSign ..

end LintBundle.Binary64
