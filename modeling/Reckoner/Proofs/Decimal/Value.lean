import Reckoner.Decimal.Arithmetic
import Reckoner.Proofs.Rational

/-!
# Decimal — the rational number it stands for

`Decimal.toRat` forgets how a number is written: `2.50` and `2.5` have one value, and so have the two zeros.  The exponent of the leading digit is the logarithm of the size (`log_toRat`), and what the operations compute before they round is exact (`units_mul`, `toRat_reduceTo`).
-/

namespace Reckoner.Decimal

open Rational

/-- The factor a sign stands for. -/
def signum (negative : Bool) : ℚ := if negative then -1 else 1

/-- The value of a decimal. -/
def toRat (d : Decimal) : ℚ := signum d.negative * (d.coefficient * 10 ^ d.exponent)

theorem tenPow_eq (k : Nat) : (tenPow k : ℚ) = 10 ^ k := by
  induction k with
  | zero => simp [tenPow_zero]
  | succ k ih => rw [tenPow_succ, Nat.cast_mul, ih, pow_succ]; norm_num

/-! ### Size and sign -/

theorem abs_signum (negative : Bool) : |signum negative| = 1 := by
  cases negative <;> simp [signum]

theorem signum_bne (h k : Bool) : signum (h != k) = signum h * signum k := by
  cases h <;> cases k <;> simp [signum]

theorem abs_toRat (d : Decimal) : |d.toRat| = d.coefficient * 10 ^ d.exponent := by
  rw [toRat, abs_mul, abs_signum, one_mul, abs_mul, Nat.abs_cast, abs_of_pos (ten_zpow_pos _)]

theorem toRat_eq_zero_iff {d : Decimal} : d.toRat = 0 ↔ d.coefficient = 0 := by
  rw [← abs_eq_zero, abs_toRat]
  simp [(ten_zpow_pos d.exponent).ne']

theorem toRat_eq_zero_iff_isZero {d : Decimal} : d.toRat = 0 ↔ d.isZero = true := by
  rw [toRat_eq_zero_iff, isZero, beq_iff_eq]

theorem sign_signum_mul (negative : Bool) {x : ℚ} (hx : 0 < x) :
    ((SignType.sign (signum negative * x) : SignType) : ℚ) = signum negative := by
  cases negative
  · rw [signum, if_neg (by decide), one_mul, sign_pos hx]; simp
  · rw [signum, if_pos rfl, neg_one_mul, sign_neg (neg_lt_zero.mpr hx)]; simp

theorem sign_toRat {d : Decimal} (hd : d.coefficient ≠ 0) :
    ((SignType.sign d.toRat : SignType) : ℚ) = signum d.negative := by
  have hpos := Nat.cast_pos (α := ℚ).mpr (Nat.pos_of_ne_zero hd)
  exact sign_signum_mul _ (mul_pos hpos (ten_zpow_pos _))

theorem toRat_neg (d : Decimal) : d.neg.toRat = -d.toRat := by
  obtain ⟨negative, c, e⟩ := d
  cases negative <;> simp [toRat, signum, neg]

@[simp] theorem toRat_ofNat (n : Nat) : (ofNat n).toRat = n := by
  simp [toRat, signum, ofNat]

/-- The leading digit of a number other than zero stands at its logarithm. -/
theorem log_toRat {d : Decimal} (hd : d.coefficient ≠ 0) : Int.log 10 |d.toRat| = d.adjusted := by
  have hlow : (10 : ℚ) ^ (digitCount d.coefficient - 1) ≤ d.coefficient := by
    rw [← tenPow_eq]
    exact_mod_cast tenPow_digitCount_le (Nat.pos_of_ne_zero hd)
  have hhigh : (d.coefficient : ℚ) < 10 ^ digitCount d.coefficient := by
    rw [← tenPow_eq]
    exact_mod_cast lt_tenPow_digitCount d.coefficient
  have hcount := digitCount_pos d.coefficient
  have hshift : ∀ j : Nat, (10 : ℚ) ^ (j + d.exponent : ℤ) = 10 ^ j * 10 ^ d.exponent := fun j => by
    rw [zpow_add₀ (by norm_num), zpow_natCast]
  rw [abs_toRat]
  apply log_eq
  · rw [adjusted, show d.exponent + digitCount d.coefficient - 1
      = ((digitCount d.coefficient - 1 : ℕ) : ℤ) + d.exponent by omega, hshift]
    gcongr
  · rw [adjusted, show d.exponent + digitCount d.coefficient - 1 + 1
      = (digitCount d.coefficient : ℤ) + d.exponent by omega, hshift]
    gcongr

/-! ### Exact steps -/

/-- `d` is a whole number of units `10 ^ e`. -/
theorem units_mul {d : Decimal} {e : ℤ} (he : e ≤ d.exponent) :
    (d.units e : ℚ) * 10 ^ e = d.toRat := by
  have hexp : (10 : ℚ) ^ (d.exponent - e).toNat * 10 ^ e = 10 ^ d.exponent := by
    rw [← zpow_natCast, Int.toNat_of_nonneg (by omega), ten_zpow_sub_mul]
  simp only [units, toRat, signum]
  split <;> push_cast <;> rw [tenPow_eq, ← hexp] <;> ring

theorem toRat_reduceTo (ideal : ℤ) (d : Decimal) : (d.reduceTo ideal).toRat = d.toRat := by
  have h := congrArg (Nat.cast (R := ℚ)) (stripZeros_fst_mul (ideal - d.exponent).toNat d.coefficient)
  rw [Nat.cast_mul, tenPow_eq] at h
  refine congrArg (signum d.negative * ·) ?_
  simp only [reduceTo, zpow_add₀ (show (10 : ℚ) ≠ 0 by norm_num), zpow_natCast]
  rw [← h]
  ring

end Reckoner.Decimal
