import Reckoner.Proofs.Decimal.Growth

/-!
# Decimal — rounding keeps the order

Rounding is odd and keeps the order of numbers (`Context.rounded_mono`), although the place at which it rounds moves with the size of the number: where two numbers are rounded at different places, a power of ten lies between them that neither is taken past.  Whether a number leaves the range can be told from its significant digits alone (`tooGreat_iff`).
-/

namespace Reckoner

namespace Rational

theorem nearest_neg (q : ℤ) (x : ℚ) : nearest q (-x) = -nearest q x := by
  rw [nearest, nearest, abs_neg, Left.sign_neg]
  push_cast
  ring

theorem nearest_of_nonneg (q : ℤ) {x : ℚ} (hx : 0 ≤ x) : nearest q x = ⌊x / 10 ^ q + 1 / 2⌋ * 10 ^ q := by
  rw [← abs_of_nonneg (nearest_nonneg hx), abs_nearest, abs_of_nonneg hx]

/-- The nearest multiples of numbers are ordered like the numbers. -/
theorem nearest_mono (q : ℤ) : Monotone (nearest q) := by
  refine monotone_of_odd_of_monotoneOn_nonneg (nearest_neg q) fun x hx y hy hxy => ?_
  have hten := ten_zpow_pos q
  rw [nearest_of_nonneg q hx, nearest_of_nonneg q hy]
  gcongr

end Rational

namespace Decimal

open Rational

variable {ctx : Context} {x y : ℚ}

theorem Context.rounded_neg (ctx : Context) (x : ℚ) : ctx.rounded (-x) = -ctx.rounded x := by
  rw [Context.rounded, abs_neg, nearest_neg, Context.rounded]

theorem Context.rounded_le_of_pos (hx : 0 < x) (hxy : x ≤ y) : ctx.rounded x ≤ ctx.rounded y := by
  have hy : 0 < y := hx.trans_le hxy
  have hlog : Int.log 10 |x| ≤ Int.log 10 |y| := by
    rw [abs_of_pos hx, abs_of_pos hy]
    exact Int.log_mono_right hx hxy
  by_cases hsame : max (Int.log 10 |x| - ctx.precision + 1) ctx.least
      = max (Int.log 10 |y| - ctx.precision + 1) ctx.least
  · rw [Context.rounded, Context.rounded, hsame]
    exact nearest_mono _ hxy
  · -- the power of ten at which the greater number begins lies between them
    have hprecision := ctx.precision_pos
    have hleast : ctx.least ≤ Int.log 10 |y| := by omega
    have hbelow : |x| ≤ 10 ^ Int.log 10 |y| := (lt_zpow_log x).le.trans (ten_zpow_le (by omega))
    have habove : 10 ^ Int.log 10 |y| ≤ y := by
      conv_rhs => rw [← abs_of_pos hy]
      exact zpow_log_le hy.ne'
    calc ctx.rounded x ≤ |ctx.rounded x| := le_abs_self _
      _ ≤ 10 ^ Int.log 10 |y| := Context.abs_rounded_le hleast hbelow
      _ ≤ ctx.rounded y := le_rounded hleast habove

/-- **Rounding keeps the order of numbers.** -/
theorem Context.rounded_mono (ctx : Context) : Monotone ctx.rounded := by
  refine monotone_of_odd_of_monotoneOn_nonneg ctx.rounded_neg fun x hx y hy hxy => ?_
  rcases eq_or_lt_of_le (show 0 ≤ x from hx) with rfl | hpos
  · rw [rounded_zero]
    exact nearest_nonneg hy
  · exact Context.rounded_le_of_pos hpos hxy

/-- Below the normal range nothing is too great, so the significant digits decide. -/
theorem tooGreat_iff : ctx.TooGreat x ↔ bound ≤ |significant ctx.precision x| := by
  rcases eq_or_ne x 0 with rfl | hx
  · rw [Context.TooGreat, rounded_zero, significant_zero]
  rcases le_or_gt minExponent (Int.log 10 |x|) with hle | hlt
  · have hleast : ctx.least ≤ Int.log 10 |x| - ctx.precision + 1 := by
      rw [Context.least]
      omega
    rw [Context.TooGreat, Context.rounded, max_eq_left hleast, significant]
  · have hleast : ctx.least ≤ minExponent := by
      have := ctx.precision_pos
      rw [Context.least]
      omega
    have hsmall : |x| ≤ 10 ^ minExponent := (lt_zpow_log x).le.trans (ten_zpow_le hlt)
    have hsignificant : |significant ctx.precision x| < bound :=
      calc |significant ctx.precision x| ≤ 10 ^ (Int.log 10 |x| + 1) :=
            (abs_significant_bounds ctx.precision_pos hx).2
        _ ≤ 10 ^ minExponent := ten_zpow_le hlt
        _ < bound := zpow_lt_zpow_right₀ (by norm_num) (by decide)
    exact iff_of_false (not_tooGreat_of_le hleast (by decide) hsmall) hsignificant.not_ge

end Decimal

end Reckoner
