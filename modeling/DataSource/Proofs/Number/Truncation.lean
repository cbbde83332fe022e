import DataSource.Number.Binary64
import DataSource.Number.Integer
import Mathlib.Data.Nat.Basic
import Mathlib.Tactic.Ring

/-!
# Truncated quotients

A quotient is rounded to 53 bits before what follows its point is cut off, and so it may be cut to the
next whole number: if it lies below that by no more than half of the last bit (`roundHalfEven_mul_div`).
Where there are bits behind the point, that is the only way in which rounding changes the whole number
(`truncate_ofQuotient`).
-/

namespace DataSource.Binary64

theorem natPow_eq (b e : Nat) : Nat.pow b e = b ^ e := rfl

variable {num den : Nat}

/-! ## The magnitude -/

theorem powerLe_iff (g : Nat) : powerLe g num den = true ↔ den * 2 ^ g ≤ num := by
  rw [powerLe, decide_eq_true_eq, Int.toNat_natCast, Int.toNat_eq_zero.2 (by omega : -(g : Int) ≤ 0),
    natPow_eq, natPow_eq, pow_zero, mul_one]

theorem magnitude_of_le (hden : 0 < den) (hle : den ≤ num) :
    magnitude num den = (num / den).log2 := by
  have hwhole : num / den ≠ 0 := (Nat.div_pos hle hden).ne'
  have hpower (g : Nat) : powerLe g num den = true ↔ g ≤ (num / den).log2 := by
    rw [powerLe_iff, Nat.le_log2 hwhole, Nat.le_div_iff_mul_le hden, mul_comm]
  have hlow : (num / den).log2 + den.log2 ≤ num.log2 := by
    rw [Nat.le_log2 (by omega), Nat.pow_add]
    calc
      2 ^ (num / den).log2 * 2 ^ den.log2 ≤ num / den * den :=
        Nat.mul_le_mul (Nat.log2_self_le hwhole) (Nat.log2_self_le hden.ne')
      _ ≤ num := Nat.div_mul_le_self num den
  have hhigh : num.log2 ≤ (num / den).log2 + den.log2 + 1 := by
    rw [← Nat.lt_succ_iff, Nat.log2_lt (by omega)]
    calc
      num < (num / den + 1) * den := Nat.lt_mul_of_div_lt (Nat.lt_succ_self _) hden
      _ ≤ 2 ^ ((num / den).log2 + 1) * 2 ^ (den.log2 + 1) :=
        Nat.mul_le_mul Nat.lt_log2_self Nat.lt_log2_self.le
      _ = 2 ^ ((num / den).log2 + den.log2 + 1).succ := by
        rw [← Nat.pow_add]
        congr 1
        omega
  have hguess : (num.log2 : Int) - den.log2 = (num.log2 - den.log2 : Nat) := by omega
  rw [magnitude, hguess]
  by_cases h : num.log2 - den.log2 ≤ (num / den).log2
  · rw [if_pos ((hpower _).2 h)]
    omega
  · rw [if_neg (by rwa [hpower])]
    omega

theorem magnitude_of_lt (hnum : 0 < num) (hlt : num < den) :
    -(den.log2 : Int) - 1 ≤ magnitude num den ∧ magnitude num den < 0 := by
  have hlog : num.log2 ≤ den.log2 := by
    rw [Nat.le_log2 (by omega)]
    exact (Nat.log2_self_le hnum.ne').trans hlt.le
  rw [magnitude]
  by_cases h : num.log2 = den.log2
  · have hpower : ¬powerLe 0 num den = true := by
      have hzero : powerLe 0 num den = true ↔ den * 2 ^ 0 ≤ num := powerLe_iff 0
      rw [pow_zero, mul_one] at hzero
      rw [hzero]
      omega
    rw [h, sub_self, if_neg hpower]
    omega
  · split <;> omega

/-! ## Rounding -/

theorem two_mul_le_roundHalfEven_iff (hden : 0 < den) (k : Nat) :
    2 * k ≤ roundHalfEven num den ↔ 2 * (2 * k) * den ≤ 2 * num + den := by
  have hrest := Nat.mod_lt num hden
  have hdouble : (2 * num + den) / den = 2 * (num % den) / den + (2 * (num / den) + 1) := by
    rw [← Nat.add_mul_div_right _ _ hden]
    congr 1
    calc
      2 * num + den = 2 * (num / den * den + num % den) + den := by rw [Nat.div_add_mod']
      _ = 2 * (num % den) + (2 * (num / den) + 1) * den := by ring
  rw [← Nat.le_div_iff_mul_le hden, hdouble, roundHalfEven]
  by_cases hlow : 2 * (num % den) < den
  · rw [Nat.div_eq_of_lt hlow, if_pos hlow]
    omega
  · have hone : 2 * (num % den) / den = 1 := Nat.div_eq_of_lt_le (by omega) (by omega)
    rw [hone, if_neg hlow]
    split <;> omega

theorem le_roundHalfEven_mul_div_iff (num : Nat) (hden : 0 < den) {half : Nat} (hhalf : 0 < half) (n : Nat) :
    n ≤ roundHalfEven (num * (2 * half)) den / (2 * half) ↔
      2 * (2 * half) * (n * den - num) ≤ den := by
  have heven : n * (2 * half) = 2 * (n * half) := by ring
  have hgap : 2 * (2 * half) * (n * den - num)
      = 2 * (2 * (n * half)) * den - 2 * (num * (2 * half)) := by
    rw [Nat.mul_sub]
    congr 1 <;> ring
  rw [Nat.le_div_iff_mul_le (by omega), heven, two_mul_le_roundHalfEven_iff hden, hgap]
  omega

/-- What rounding behind the point does to the whole part of a quotient: it is one more if the next whole
number lies no more than half of a step above the quotient. -/
theorem roundHalfEven_mul_div (num : Nat) (hden : 0 < den) {half : Nat} (hhalf : 0 < half) :
    roundHalfEven (num * (2 * half)) den / (2 * half)
      = num / den + if 2 * (2 * half) * (den - num % den) ≤ den then 1 else 0 := by
  have hcut := le_roundHalfEven_mul_div_iff num hden hhalf
  have hdiv := Nat.div_add_mod' num den
  have hrest := Nat.mod_lt num hden
  have hwhole : num / den ≤ roundHalfEven (num * (2 * half)) den / (2 * half) := by
    rw [hcut, Nat.sub_eq_zero_of_le (Nat.div_mul_le_self num den), Nat.mul_zero]
    exact Nat.zero_le _
  have hnext : (num / den + 1) * den - num = den - num % den := by
    rw [Nat.add_one_mul]
    omega
  have hfar : ¬num / den + 1 + 1 ≤ roundHalfEven (num * (2 * half)) den / (2 * half) := by
    rw [hcut, Nat.not_le]
    calc
      den < (num / den + 1 + 1) * den - num := by
        rw [Nat.add_one_mul, Nat.add_one_mul]
        omega
      _ ≤ 2 * (2 * half) * ((num / den + 1 + 1) * den - num) :=
        Nat.le_mul_of_pos_left _ (by omega)
  split
  next hclose =>
    rw [← hnext, ← hcut] at hclose
    omega
  next hclose =>
    rw [← hnext, ← hcut] at hclose
    omega

/-! ## Cutting off -/

theorem truncate_finite (negative : Bool) (significand bits : Nat) :
    (finite negative significand (-(bits : Int))).truncate
      = Integer.signed negative (significand / 2 ^ bits) := by
  simp only [truncate, neg_neg, Int.toNat_natCast, natPow_eq,
    Int.toNat_eq_zero.2 (by omega : -(bits : Int) ≤ 0), pow_zero, mul_one, Integer.signed]

/-- The number of bits that a quotient is given behind its point. -/
def fractionBits (num den : Nat) : Nat := (52 - magnitude num den).toNat

theorem truncate_ofQuotient_of_magnitude (negative : Bool) (hnum : 0 < num) (hden : 0 < den)
    (hlow : -1022 ≤ magnitude num den) (hhigh : magnitude num den < 52) :
    (ofQuotient negative num den).truncate = Integer.signed negative
      (num / den +
        if 2 * 2 ^ fractionBits num den * (den - num % den) ≤ den then 1 else 0) := by
  obtain ⟨bits, hbits⟩ : ∃ bits, fractionBits num den = bits + 1 :=
    ⟨(51 - magnitude num den).toNat, by rw [fractionBits]; omega⟩
  have hexponent : max (magnitude num den - 52) minExponent = -(bits + 1 : Nat) := by
    rw [fractionBits] at hbits
    rw [minExponent]
    omega
  have hpower : 2 ^ (bits + 1) = 2 * 2 ^ bits := Nat.pow_succ'
  rw [hbits, hpower, ← roundHalfEven_mul_div num hden (Nat.two_pow_pos bits), ofQuotient,
    if_neg hnum.ne']
  simp only [hexponent, neg_neg, Int.toNat_natCast, natPow_eq, hpower,
    Int.toNat_eq_zero.2 (by omega : -((bits + 1 : Nat) : Int) ≤ 0), pow_zero, mul_one]
  generalize roundHalfEven (num * (2 * 2 ^ bits)) den = significand
  have hfits : -((bits + 1 : Nat) : Int) < maxExponent := by
    rw [maxExponent]
    omega
  by_cases hzero : significand = 0
  · simp [truncate, Integer.signed, hzero]
  rw [if_neg hzero]
  by_cases hcarry : significand = 2 ^ 53
  · -- rounded up to a power of two, which is kept with one bit less behind its point
    have hless : -((bits + 1 : Nat) : Int) + 1 = -(bits : Nat) := by omega
    have hhalf : 2 ^ 53 / (2 * 2 ^ bits) = 2 ^ 52 / 2 ^ bits :=
      Nat.mul_div_mul_left (2 ^ 52) (2 ^ bits) two_pos
    rw [if_pos hcarry, if_pos hfits, hless, truncate_finite, hcarry, hhalf]
  · rw [if_neg hcarry, if_pos hfits.le, truncate_finite, hpower]

/-- A quotient of fewer than 53 bits, with a denominator of fewer than 54, comes to its whole part, or to one
more if the next whole number lies no more than half of a step above it. -/
theorem truncate_ofQuotient (negative : Bool) (num : Nat) (hden : 0 < den) (hsmall : den < 2 ^ 53)
    (hwhole : num / den < 2 ^ 52) :
    (ofQuotient negative num den).truncate = Integer.signed negative
      (num / den +
        if 2 ^ 53 * (den - num % den) ≤ den * 2 ^ (num / den).log2 then 1 else 0) := by
  rcases Nat.lt_or_ge num den with hless | hmore
  · -- below one, the gap to one is at least a unit of the denominator, which is more than half of a step
    have hmod : num % den = num := Nat.mod_eq_of_lt hless
    have hstep {steps : Nat} (hsteps : 2 ^ 53 ≤ steps) : ¬steps * (den - num) ≤ den := by
      have hunit : steps * 1 ≤ steps * (den - num) := Nat.mul_le_mul_left _ (by omega)
      omega
    rw [Nat.div_eq_of_lt hless, hmod, Nat.log2_zero, pow_zero, mul_one, if_neg (hstep le_rfl)]
    rcases Nat.eq_zero_or_pos num with rfl | hpos
    · simp [ofQuotient, truncate, Integer.signed]
    have hlog : den.log2 < 53 := (Nat.log2_lt hden.ne').2 hsmall
    obtain ⟨hlow, hhigh⟩ := magnitude_of_lt hpos hless
    have hbits : 2 ^ 53 ≤ 2 * 2 ^ fractionBits num den := by
      rw [← Nat.pow_succ']
      refine Nat.pow_le_pow_right two_pos ?_
      rw [fractionBits]
      omega
    rw [truncate_ofQuotient_of_magnitude negative hpos hden (by omega) (by omega),
      Nat.div_eq_of_lt hless, hmod, if_neg (hstep hbits)]
  · have hpos : num / den ≠ 0 := (Nat.div_pos hmore hden).ne'
    have hlog : (num / den).log2 < 52 := (Nat.log2_lt hpos).2 hwhole
    have hmagnitude := magnitude_of_le hden hmore
    have hbits : 2 * 2 ^ fractionBits num den * 2 ^ (num / den).log2 = 2 ^ 53 := by
      rw [← Nat.pow_succ', ← Nat.pow_add, fractionBits, hmagnitude]
      congr 1
      omega
    have hscale : 2 * 2 ^ fractionBits num den * (den - num % den) ≤ den ↔
        2 ^ 53 * (den - num % den) ≤ den * 2 ^ (num / den).log2 := by
      rw [← hbits, Nat.mul_right_comm (2 * 2 ^ fractionBits num den)]
      exact (Nat.mul_le_mul_right_iff (Nat.two_pow_pos _)).symm
    rw [truncate_ofQuotient_of_magnitude negative (by omega) hden (by omega) (by omega)]
    simp only [hscale]

end DataSource.Binary64
