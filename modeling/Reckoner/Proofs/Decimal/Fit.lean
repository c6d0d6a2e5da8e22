import Reckoner.Proofs.Decimal.Arithmetic

/-!
# Decimal — what a context leaves as it is

A number `Fits` a context if it has no more digits than the context keeps, and its first and last digit lie in range.  These are the fixed points of rounding: what rounding returns fits (`fits_of_round`), and what fits is returned as it is (`Fits.round_eq`).  Rounding for another context, with more digits or fewer, leaves a number that still fits the first one (`Fits.round`).

A `Final` number fits, and has no sign if it is zero.  The one value an evaluation ends with is of this kind.
-/

namespace Reckoner.Decimal

/-- The context has the digits and the range for the number. -/
structure Context.Fits (ctx : Context) (d : Decimal) : Prop where
  digits : d.coefficient < tenPow ctx.precision
  least_le : ctx.least ≤ d.exponent
  adjusted_le : d.adjusted ≤ maxExponent

/-- It fits, and zero has no sign. -/
structure Context.Final (ctx : Context) (d : Decimal) : Prop extends ctx.Fits d where
  signed : d.negative = true → d.coefficient ≠ 0

variable {ctx : Context} {d r : Decimal}

/-! ### Digits -/

theorem digitCount_le {n p : ℕ} (hp : 0 < p) (h : n < tenPow p) : digitCount n ≤ p := by
  rcases Nat.eq_zero_or_pos n with rfl | hn
  · exact hp
  · by_contra! hlt
    have hlow := tenPow_digitCount_le hn
    have := tenPow_le_tenPow (show p ≤ digitCount n - 1 by omega)
    omega

theorem adjusted_eq_exponent (hd : d.coefficient = 0) : d.adjusted = d.exponent := by
  rw [adjusted, hd, show digitCount 0 = 1 from by decide]
  push_cast
  ring

theorem adjusted_eq_of_toRat_eq (hd : d.coefficient ≠ 0) (h : d.toRat = r.toRat) :
    d.adjusted = r.adjusted := by
  have hr : r.coefficient ≠ 0 := fun hzero => hd (by
    rw [← toRat_eq_zero_iff, h, toRat_eq_zero_iff.mpr hzero])
  rw [← log_toRat hd, ← log_toRat hr, h]

theorem Context.least_neg (ctx : Context) : ctx.least < 0 := by
  have := ctx.precision_pos
  rw [Context.least, minExponent]
  omega

/-! ### The fixed points of rounding -/

theorem Context.Fits.quantum_le (h : ctx.Fits d) : ctx.quantum d ≤ d.exponent := by
  have := digitCount_le ctx.precision_pos h.digits
  exact max_le (by omega) h.least_le

/-- **What fits is left as it is.** -/
theorem Context.Fits.round_eq (h : ctx.Fits d) : ctx.round d = .ok d := by
  rw [Context.round]
  split
  · next hd =>
    have hle := h.adjusted_le
    rw [adjusted_eq_exponent hd] at hle
    rw [min_eq_left hle, max_eq_right h.least_le]
  · rw [Context.fit, if_pos h.quantum_le, if_neg (not_lt.mpr h.adjusted_le)]

theorem quantize_digits (ctx : Context) (d : Decimal) {q : ℤ} (hq : ctx.quantum d ≤ q) :
    (ctx.quantize d q).coefficient < tenPow ctx.precision ∧ q ≤ (ctx.quantize d q).exponent := by
  rw [Context.quantize]
  split
  · next hlt => exact ⟨hlt, le_rfl⟩
  · have hle := halfUp_le hq
    have hpos := tenPow_pos ctx.precision
    refine ⟨?_, by simp⟩
    show halfUp d.coefficient (q - d.exponent).toNat / 10 < _
    omega

theorem fit_digits (ctx : Context) (d : Decimal) :
    (ctx.fit d).coefficient < tenPow ctx.precision ∧ max ctx.least d.exponent ≤ (ctx.fit d).exponent := by
  rw [Context.fit]
  split
  · next hle =>
    have hdigits : digitCount d.coefficient ≤ ctx.precision := by
      have := (le_max_left _ _).trans hle
      omega
    exact ⟨(lt_tenPow_digitCount _).trans_le (tenPow_le_tenPow hdigits),
      max_le ((le_max_right _ _).trans hle) le_rfl⟩
  · next hgt =>
    obtain ⟨hdigits, hexponent⟩ := quantize_digits ctx d le_rfl
    exact ⟨hdigits, (max_le (le_max_right _ _) (not_le.mp hgt).le).trans hexponent⟩

/-- **What rounding returns fits.** -/
theorem fits_of_round (h : ctx.round d = .ok r) : ctx.Fits r := by
  rw [Context.round] at h
  split at h
  · next hd =>
    cases h
    refine ⟨by simpa [hd] using tenPow_pos _, le_max_left _ _, ?_⟩
    have hadjusted := adjusted_eq_exponent
      (d := ⟨d.negative, d.coefficient, max ctx.least (min d.exponent maxExponent)⟩) hd
    exact hadjusted.trans_le (max_le (least_le ctx) (min_le_right _ _))
  · split at h
    · cases h
    · next hle =>
      cases h
      obtain ⟨hdigits, hexponent⟩ := fit_digits ctx d
      exact ⟨hdigits, (le_max_left _ _).trans hexponent, not_lt.mp hle⟩

theorem negative_of_round (h : ctx.round d = .ok r) : r.negative = d.negative := by
  have hquantize : ∀ q, (ctx.quantize d q).negative = d.negative := fun q => by
    rw [Context.quantize]; split <;> rfl
  rw [Context.round] at h
  split at h
  · cases h; rfl
  · split at h
    · cases h
    · cases h
      rw [Context.fit]
      split
      · rfl
      · exact hquantize _

/-- Rounding moves the last digit to the left only. -/
theorem exponent_le_of_round (h : ctx.round d = .ok r) (hd : d.exponent ≤ maxExponent) :
    d.exponent ≤ r.exponent := by
  rw [Context.round] at h
  split at h
  · cases h
    exact (le_min le_rfl hd).trans (le_max_right _ _)
  · split at h
    · cases h
    · cases h
      exact (le_max_right _ _).trans (fit_digits ctx d).2

/-! ### Values -/

theorem Context.Fits.delivered (h : ctx.Fits d) : ctx.delivered d.toRat = .ok d.toRat := by
  rw [← toRat_round, h.round_eq]
  rfl

theorem delivered_eq_ok_iff {x y : ℚ} :
    ctx.delivered x = .ok y ↔ ¬ ctx.TooGreat x ∧ ctx.rounded x = y := by
  rw [Context.delivered]
  split <;> simp_all

theorem Context.Fits.rounded (h : ctx.Fits d) : ctx.rounded d.toRat = d.toRat :=
  (delivered_eq_ok_iff.mp h.delivered).2

/-- A number of the same value with fewer digits, the last of them further left, fits as well. -/
theorem Context.Fits.of_toRat_eq (h : ctx.Fits d) (hd : d.coefficient ≠ 0) (hr : d.toRat = r.toRat)
    (hdigits : r.coefficient ≤ d.coefficient) (hexponent : d.exponent ≤ r.exponent) : ctx.Fits r :=
  ⟨hdigits.trans_lt h.digits, h.least_le.trans hexponent,
    (adjusted_eq_of_toRat_eq hd hr).symm.trans_le h.adjusted_le⟩

/-! ### Two contexts -/

/-- Rounded for another context, a number still fits the one it came from. -/
theorem Context.Fits.round {other : Context} (h : ctx.Fits d) (hr : other.round d = .ok r) :
    ctx.Fits r := by
  have hother := fits_of_round hr
  by_cases hd : d.coefficient = 0
  · have hle := h.adjusted_le
    rw [adjusted_eq_exponent hd] at hle
    have hexponent := exponent_le_of_round hr hle
    rw [Context.round, if_pos hd] at hr
    cases hr
    exact ⟨by simpa [hd] using tenPow_pos _, h.least_le.trans hexponent, hother.adjusted_le⟩
  · by_cases hq : other.quantum d ≤ d.exponent
    · -- nothing is given up
      have hsame : other.Fits d := by
        have hfit : other.fit d = d := if_pos hq
        rw [Context.round, if_neg hd, hfit] at hr
        split at hr
        · cases hr
        · cases hr
          exact hother
      rw [hsame.round_eq] at hr
      cases hr
      exact h
    · -- digits are given up, so the other context keeps fewer of them
      have hfewer : other.precision ≤ ctx.precision := by
        have hdigits := digitCount_le ctx.precision_pos h.digits
        have hleast := h.least_le
        by_contra! hmore
        refine hq (max_le (by omega) ?_)
        rw [Context.least] at hleast ⊢
        omega
      have hexponent := hother.least_le
      refine ⟨hother.digits.trans_le (tenPow_le_tenPow hfewer), ?_, hother.adjusted_le⟩
      rw [Context.least] at hexponent ⊢
      omega

/-! ### The end of an evaluation -/

theorem plus_eq_round (hd : d.negative = true → d.coefficient ≠ 0) : ctx.plus d = ctx.round d := by
  rw [Context.plus]
  split
  · next hzero =>
    have hsign : d.negative = false := Bool.eq_false_iff.mpr fun hn => hd hn (beq_iff_eq.mp hzero)
    rw [← hsign]
  · rfl

/-- A final number is not changed by rounding it once more. -/
theorem Context.Final.plus_eq (h : ctx.Final d) : ctx.plus d = .ok d :=
  (plus_eq_round h.signed).trans h.round_eq

/-- Not even a zero has a sign. -/
theorem Context.Final.negative_eq_false (h : ctx.Final d) (hd : 0 ≤ d.toRat) :
    d.negative = false := by
  refine Bool.eq_false_iff.mpr fun hneg => ?_
  have hsize : (0 : ℚ) < d.coefficient := by exact_mod_cast Nat.pos_of_ne_zero (h.signed hneg)
  have hvalue : d.toRat = -(d.coefficient * 10 ^ d.exponent) := by simp [toRat, signum, hneg]
  have hpos := mul_pos hsize (Rational.ten_zpow_pos d.exponent)
  linarith

/-- Where nothing negative has to be rounded any more, none can round to zero. -/
theorem final_of_plus (hd : d.negative = true → ctx.Fits d) (h : ctx.plus d = .ok r) :
    ctx.Final r := by
  by_cases hzero : d.isZero = true
  · rw [Context.plus, if_pos hzero] at h
    refine ⟨fits_of_round h, fun hn => ?_⟩
    rw [negative_of_round h] at hn
    cases hn
  · rw [Context.plus, if_neg hzero] at h
    refine ⟨fits_of_round h, fun hn => ?_⟩
    rw [negative_of_round h] at hn
    rw [(hd hn).round_eq] at h
    cases h
    simpa [isZero] using hzero

end Reckoner.Decimal
