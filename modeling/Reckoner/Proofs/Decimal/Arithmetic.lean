import Reckoner.Proofs.Decimal.Rounding

/-!
# Decimal — the operations are exact up to one rounding

Each operation of a context delivers its exact rational result, rounded once: `toRat_add`, `toRat_sub`, `toRat_mul`, `toRat_div`, and `toRat_plus` for the rounding of a single number.  Only the quotient is not computed exactly first: it is cut off behind more digits than the context keeps (`toRat_quotient`), which does not change where it rounds to.
-/

namespace Reckoner.Decimal

open Rational

variable (ctx : Context) (a b : Decimal)

/-! ### Sum, difference, product -/

theorem toRat_ofUnits {s e : ℤ} {negative : Bool} (h : s ≠ 0 → negative = decide (s < 0)) :
    toRat ⟨negative, s.natAbs, e⟩ = s * 10 ^ e := by
  rcases eq_or_ne s 0 with rfl | hs
  · simp [toRat]
  · have habs : ((s.natAbs : ℕ) : ℚ) = |(s : ℚ)| := by rw [Nat.cast_natAbs, Int.cast_abs]
    rw [toRat, signum, h hs]
    simp only [decide_eq_true_eq, habs]
    rcases lt_or_gt_of_ne hs with hlt | hgt
    · rw [if_pos hlt, abs_of_neg (by exact_mod_cast hlt)]
      ring
    · rw [if_neg (by omega), abs_of_pos (by exact_mod_cast hgt)]
      ring

theorem toRat_add : toRat <$> ctx.add a b = ctx.delivered (a.toRat + b.toRat) := by
  rw [Context.add, toRat_round, toRat_ofUnits (fun hs => by rw [if_neg hs])]
  push_cast
  rw [add_mul, units_mul (min_le_left ..), units_mul (min_le_right ..)]

theorem toRat_sub : toRat <$> ctx.sub a b = ctx.delivered (a.toRat - b.toRat) := by
  rw [Context.sub, toRat_add, toRat_neg, sub_eq_add_neg]

theorem toRat_mul : toRat <$> ctx.mul a b = ctx.delivered (a.toRat * b.toRat) := by
  rw [Context.mul, toRat_round]
  simp only [toRat, signum_bne, zpow_add₀ (show (10 : ℚ) ≠ 0 by norm_num)]
  push_cast
  congr 1
  ring

theorem toRat_plus : toRat <$> ctx.plus a = ctx.delivered a.toRat := by
  rw [Context.plus, toRat_round]
  congr 1
  split
  · next h =>
    have hc : a.coefficient = 0 := beq_iff_eq.mp h
    rw [toRat_eq_zero_iff.mpr hc, toRat_eq_zero_iff]
    exact hc
  · rfl

/-! ### Quotient -/

theorem ten_pow_toNat_div (s : ℤ) : (10 : ℚ) ^ s.toNat / 10 ^ (-s).toNat = 10 ^ s := by
  rcases le_total 0 s with h | h
  · rw [show (-s).toNat = 0 by omega, pow_zero, div_one, ← zpow_natCast, Int.toNat_of_nonneg h]
  · rw [show s.toNat = 0 by omega, pow_zero, one_div, ← zpow_natCast, Int.toNat_of_nonneg (by omega),
      ← zpow_neg, neg_neg]

/-- The coefficients divided, one of them moved by `shift` places, are the quotient in the units of its last digit. -/
theorem shifted_div_eq (shift : ℤ) :
    ((a.coefficient * tenPow shift.toNat : ℕ) : ℚ) / (b.coefficient * tenPow (-shift).toNat : ℕ)
      = |a.toRat / b.toRat| / 10 ^ (a.exponent - b.exponent - shift) := by
  rw [abs_div, abs_toRat, abs_toRat, zpow_sub₀ (by norm_num), zpow_sub₀ (by norm_num),
    ← ten_pow_toNat_div shift]
  push_cast [tenPow_eq]
  field_simp

/-- The dividend is moved so far that the quotient has more digits than the context keeps. -/
theorem tenPow_le_shifted_div {a b : Decimal} (ha : a.coefficient ≠ 0) {shift : ℤ} {p : ℕ}
    (hshift : shift = digitCount b.coefficient - digitCount a.coefficient + p + 1) :
    (10 : ℚ) ^ p * (b.coefficient * tenPow (-shift).toNat : ℕ)
      ≤ (a.coefficient * tenPow shift.toNat : ℕ) := by
  have hcount := digitCount_pos a.coefficient
  rw [← tenPow_eq]
  norm_cast
  calc tenPow p * (b.coefficient * tenPow (-shift).toNat)
      ≤ tenPow p * (tenPow (digitCount b.coefficient) * tenPow (-shift).toNat) := by
        gcongr
        exact (lt_tenPow_digitCount _).le
    _ = tenPow (digitCount a.coefficient - 1) * tenPow shift.toNat := by
        rw [← tenPow_add, ← tenPow_add, ← tenPow_add]
        congr 1
        omega
    _ ≤ a.coefficient * tenPow shift.toNat := by
        gcongr
        exact tenPow_digitCount_le (Nat.pos_of_ne_zero ha)

theorem toRat_div_toRat {a b : Decimal} (ha : a.coefficient ≠ 0) (hb : b.coefficient ≠ 0) :
    a.toRat / b.toRat = signum (a.negative != b.negative) * |a.toRat / b.toRat| ∧
      ((SignType.sign (a.toRat / b.toRat) : SignType) : ℚ) = signum (a.negative != b.negative) := by
  have hpos : 0 < |a.toRat / b.toRat| :=
    abs_pos.mpr (div_ne_zero (mt toRat_eq_zero_iff.mp ha) (mt toRat_eq_zero_iff.mp hb))
  have hinv : (signum b.negative)⁻¹ = signum b.negative := by cases b.negative <;> simp [signum]
  have heq : a.toRat / b.toRat = signum (a.negative != b.negative) * |a.toRat / b.toRat| := by
    rw [abs_div, abs_toRat, abs_toRat, toRat, toRat, signum_bne, mul_div_mul_comm, div_eq_mul_inv,
      hinv]
  refine ⟨heq, ?_⟩
  rw [heq, sign_signum_mul _ hpos]

/-- The quotient is cut off behind at least one digit more than the context keeps. -/
theorem toRat_quotient {a b : Decimal} (ha : a.coefficient ≠ 0) (hb : b.coefficient ≠ 0) :
    10 ^ ((ctx.quotient a b).1.exponent + ctx.precision) ≤ |a.toRat / b.toRat| ∧
      (ctx.quotient a b).1.toRat = truncated (ctx.quotient a b).1.exponent (a.toRat / b.toRat) ∧
      ((ctx.quotient a b).2 = true → (ctx.quotient a b).1.toRat = a.toRat / b.toRat) := by
  simp only [Context.quotient]
  set shift : ℤ := digitCount b.coefficient - digitCount a.coefficient + ctx.precision + 1 with hs
  set n := a.coefficient * tenPow shift.toNat with hn
  set m := b.coefficient * tenPow (-shift).toNat with hm
  have hdiv : (n : ℚ) / m = _ := shifted_div_eq a b shift
  have hpos : 0 < m := Nat.mul_pos (Nat.pos_of_ne_zero hb) (tenPow_pos _)
  have hmpos : (0 : ℚ) < m := by exact_mod_cast hpos
  have hten := ten_zpow_pos (a.exponent - b.exponent - shift)
  have hcut : toRat ⟨a.negative != b.negative, n / m, a.exponent - b.exponent - shift⟩
      = truncated (a.exponent - b.exponent - shift) (a.toRat / b.toRat) := by
    rw [truncated, ← hdiv, Rat.floor_natCast_div_natCast, (toRat_div_toRat ha hb).2]
    norm_cast
  refine ⟨?_, hcut, fun hexact => ?_⟩
  · have hsize := tenPow_le_shifted_div ha hs
    rw [← le_div_iff₀ hmpos, hdiv, le_div_iff₀ hten, ← ten_zpow_add] at hsize
    exact hsize
  · have hdvd : m ∣ n := Nat.dvd_of_mod_eq_zero (of_decide_eq_true hexact)
    rw [(toRat_div_toRat ha hb).1, toRat]
    refine congrArg (signum _ * ·) ?_
    rw [Nat.cast_div hdvd hmpos.ne', hdiv, div_mul_cancel₀ _ hten.ne']

theorem toRat_div (hb : b.toRat ≠ 0) :
    toRat <$> ctx.div a b = ctx.delivered (a.toRat / b.toRat) := by
  have hb' : b.coefficient ≠ 0 := mt toRat_eq_zero_iff.mpr hb
  have hbz : b.isZero = false := by simpa [isZero] using hb'
  simp only [Context.div, hbz, Bool.false_eq_true, if_false]
  by_cases ha : a.coefficient = 0
  · have haz : a.isZero = true := by simpa [isZero] using ha
    rw [if_pos haz, toRat_round, toRat_eq_zero_iff.mpr ha, zero_div, toRat_eq_zero_iff.mpr rfl]
  · have haz : ¬ a.isZero = true := by simpa [isZero] using ha
    obtain ⟨hsize, hcut, hexact⟩ := toRat_quotient ctx ha hb'
    rw [if_neg haz, toRat_round]
    split
    · next h => rw [toRat_reduceTo, hexact h]
    · rw [hcut, delivered_truncated hsize]

end Reckoner.Decimal
