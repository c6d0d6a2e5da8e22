import Reckoner.Proofs.Decimal.Value

/-!
# Decimal — rounding is rounding of the value

What a context makes of a number depends on its value only.  `Context.rounded` rounds a rational number to the digits of the context, or to its least exponent if that is coarser; `Context.delivered` signals an overflow if the result is `10 ^ 1000000` or more.  `toRat_round`: that is what the decimal rounding does.  Where the least exponent plays no part (`Normal`), `rounded` is `Rational.significant`.
-/

namespace Reckoner.Decimal

open Rational

/-! ### The specification -/

/-- `x` to the digits the context keeps, and not below its least exponent. -/
def Context.rounded (ctx : Context) (x : ℚ) : ℚ :=
  nearest (max (Int.log 10 |x| - ctx.precision + 1) ctx.least) x

/-- The size no result reaches. -/
def bound : ℚ := 10 ^ (maxExponent + 1)

/-- `x` leaves the range at its upper end. -/
def Context.TooGreat (ctx : Context) (x : ℚ) : Prop := bound ≤ |ctx.rounded x|

instance (ctx : Context) (x : ℚ) : Decidable (ctx.TooGreat x) := inferInstanceAs (Decidable (_ ≤ _))

/-- What an operation with the exact result `x` delivers. -/
def Context.delivered (ctx : Context) (x : ℚ) : Except Signal ℚ :=
  if ctx.TooGreat x then .error .overflow else .ok (ctx.rounded x)

/-- Zero, or a size between the least and the greatest exponent of a leading digit. -/
def Normal (x : ℚ) : Prop := x = 0 ∨ 10 ^ minExponent ≤ |x| ∧ |x| < bound

/-! ### Rounding a coefficient -/

/-- The exponent has a common scale with every coarser one. -/
theorem abs_toRat_div {d : Decimal} {q : ℤ} (hq : d.exponent ≤ q) :
    |d.toRat| / 10 ^ q = d.coefficient / 10 ^ (q - d.exponent).toNat := by
  rw [abs_toRat, ← zpow_natCast, Int.toNat_of_nonneg (by omega), zpow_sub₀ (by norm_num)]
  field_simp

theorem halfUp_eq_floor (n k : Nat) : (halfUp n k : ℤ) = ⌊(n : ℚ) / 10 ^ k + 1 / 2⌋ := by
  obtain ⟨h₁, h₂⟩ := halfUp_near n k
  have hten : (0 : ℚ) < 10 ^ k := by positivity
  have h₁' : (2 * (halfUp n k * 10 ^ k) : ℚ) ≤ 2 * n + 10 ^ k := by
    rw [← tenPow_eq]; exact_mod_cast h₁
  have h₂' : (2 * n : ℚ) < 2 * (halfUp n k * 10 ^ k) + 10 ^ k := by
    rw [← tenPow_eq]; exact_mod_cast h₂
  refine (Int.floor_eq_iff.mpr ⟨?_, ?_⟩).symm
  · rw [div_add' _ _ _ hten.ne', le_div_iff₀ hten]
    push_cast
    linarith
  · rw [div_add' _ _ _ hten.ne', div_lt_iff₀ hten]
    push_cast
    linarith

theorem nearest_toRat {d : Decimal} {q : ℤ} (hq : d.exponent ≤ q) :
    nearest q d.toRat = signum d.negative * (halfUp d.coefficient (q - d.exponent).toNat * 10 ^ q) := by
  rcases eq_or_ne d.coefficient 0 with hc | hc
  · rw [toRat_eq_zero_iff.mpr hc, hc, halfUp_eq]
    simp [tenPow_pos]
  · have h := halfUp_eq_floor d.coefficient (q - d.exponent).toNat
    rw [nearest, sign_toRat hc, abs_toRat_div hq, ← h, Int.cast_natCast, mul_assoc]

/-- A number that the context has the digits for up to `q` rounds to at most `10 ^ precision` units. -/
theorem halfUp_le {ctx : Context} {d : Decimal} {q : ℤ} (hq : ctx.quantum d ≤ q) :
    halfUp d.coefficient (q - d.exponent).toNat ≤ tenPow ctx.precision := by
  set k := (q - d.exponent).toNat with hk
  have hdigits : digitCount d.coefficient ≤ k + ctx.precision := by
    have := le_trans (le_max_left _ _) hq
    omega
  have hlt : d.coefficient < tenPow k * tenPow ctx.precision := by
    rw [← tenPow_add]
    exact (lt_tenPow_digitCount _).trans_le (tenPow_le_tenPow hdigits)
  have hnear := (halfUp_near d.coefficient k).1
  have hpos := tenPow_pos k
  by_contra! hgt
  have : (tenPow ctx.precision + 1) * tenPow k ≤ halfUp d.coefficient k * tenPow k :=
    Nat.mul_le_mul_right _ hgt
  nlinarith

theorem toRat_quantize {ctx : Context} {d : Decimal} {q : ℤ} (hd : d.exponent ≤ q)
    (hq : ctx.quantum d ≤ q) : (ctx.quantize d q).toRat = nearest q d.toRat := by
  rw [nearest_toRat hd, Context.quantize]
  split
  · rfl
  · next hlt =>
    -- the carry leaves a one and zeros, the last of which moves into the exponent
    obtain ⟨p, hp⟩ : ∃ p, ctx.precision = p + 1 := ⟨ctx.precision - 1, by have := ctx.precision_pos; omega⟩
    have hc := le_antisymm (halfUp_le hq) (Nat.le_of_not_lt hlt)
    rw [hp, tenPow_succ] at hc
    refine congrArg (signum d.negative * ·) ?_
    simp only [hc, Nat.mul_div_cancel _ (show 0 < 10 by decide)]
    rw [zpow_add_one₀ (by norm_num)]
    push_cast
    ring

/-! ### Rounding a number -/

theorem quantum_eq {ctx : Context} {d : Decimal} (hd : d.coefficient ≠ 0) :
    ctx.quantum d = max (Int.log 10 |d.toRat| - ctx.precision + 1) ctx.least := by
  rw [Context.quantum, log_toRat hd, adjusted]
  congr 1
  ring

theorem toRat_fit {ctx : Context} {d : Decimal} (hd : d.coefficient ≠ 0) :
    (ctx.fit d).toRat = ctx.rounded d.toRat := by
  rw [Context.fit, Context.rounded, ← quantum_eq hd]
  split
  · next hle =>
    -- a whole number of units already
    refine (nearest_eq_self (m := d.units (ctx.quantum d)) ?_).symm
    exact (units_mul hle).symm
  · next hgt => exact toRat_quantize (le_of_not_ge hgt) le_rfl

/-- Rounding to zero happens at the least exponent. -/
theorem quantum_eq_least {ctx : Context} {d : Decimal} (hd : d.coefficient ≠ 0)
    (hzero : halfUp d.coefficient (ctx.quantum d - d.exponent).toNat = 0) :
    ctx.quantum d = ctx.least := by
  have hnear := (halfUp_near d.coefficient (ctx.quantum d - d.exponent).toNat).2
  have hlow := tenPow_digitCount_le (Nat.pos_of_ne_zero hd)
  have hpos := ctx.precision_pos
  rcases max_choice (d.exponent + digitCount d.coefficient - ctx.precision) ctx.least with h | h
  · -- there is a digit to the left of the digits given up
    have hle : (ctx.quantum d - d.exponent).toNat ≤ digitCount d.coefficient - 1 := by
      rw [Context.quantum, h]
      omega
    have := tenPow_le_tenPow hle
    rw [hzero] at hnear
    omega
  · exact h

theorem quantize_eq_of_coefficient_eq_zero {ctx : Context} {d : Decimal} {q : ℤ}
    (h : (ctx.quantize d q).coefficient = 0) :
    halfUp d.coefficient (q - d.exponent).toNat = 0 ∧ ctx.quantize d q = ⟨d.negative, 0, q⟩ := by
  simp only [Context.quantize] at h ⊢
  split at h
  · next hlt =>
    simp only at h
    simp [h, tenPow_pos]
  · next hle =>
    have hten : tenPow 1 ≤ tenPow ctx.precision := tenPow_le_tenPow ctx.precision_pos
    have hpos := Nat.div_pos (Nat.le_trans hten (Nat.le_of_not_lt hle)) (show 0 < 10 by decide)
    exact absurd h hpos.ne'

theorem adjusted_fit_of_eq_zero {ctx : Context} {d : Decimal} (hd : d.coefficient ≠ 0)
    (hzero : (ctx.fit d).coefficient = 0) : (ctx.fit d).adjusted = ctx.least := by
  have hfit : ctx.fit d = ⟨d.negative, 0, ctx.least⟩ := by
    rw [Context.fit] at hzero ⊢
    split at hzero
    · exact absurd hzero hd
    · next hgt =>
      obtain ⟨hhalf, heq⟩ := quantize_eq_of_coefficient_eq_zero hzero
      rw [if_neg hgt, heq, quantum_eq_least hd hhalf]
  rw [hfit, adjusted, show digitCount 0 = 1 from by decide]
  push_cast
  ring

theorem least_le (ctx : Context) : ctx.least ≤ maxExponent := by
  unfold Context.least minExponent maxExponent
  omega

/-- The overflow test looks at the value. -/
theorem maxExponent_lt_adjusted_fit {ctx : Context} {d : Decimal} (hd : d.coefficient ≠ 0) :
    maxExponent < (ctx.fit d).adjusted ↔ ctx.TooGreat d.toRat := by
  rw [Context.TooGreat, ← toRat_fit hd, bound]
  rcases eq_or_ne (ctx.fit d).coefficient 0 with hzero | hne
  · have hnot : ¬ (10 : ℚ) ^ (maxExponent + 1) ≤ 0 := not_le.mpr (ten_zpow_pos _)
    rw [adjusted_fit_of_eq_zero hd hzero, toRat_eq_zero_iff.mpr hzero, abs_zero]
    exact iff_of_false (least_le ctx).not_gt hnot
  · rw [zpow_le_iff_le_log (mt toRat_eq_zero_iff.mp hne), log_toRat hne, Int.add_one_le_iff]

theorem bound_pos : 0 < bound := ten_zpow_pos _

@[simp] theorem rounded_zero (ctx : Context) : ctx.rounded 0 = 0 := nearest_zero _

theorem not_tooGreat_zero (ctx : Context) : ¬ ctx.TooGreat 0 := by
  rw [Context.TooGreat, rounded_zero, abs_zero, not_le]
  exact bound_pos

/-- **Rounding rounds the value**, and overflows where the rounded value does. -/
theorem toRat_round (ctx : Context) (d : Decimal) :
    toRat <$> ctx.round d = ctx.delivered d.toRat := by
  rw [Context.round, Context.delivered]
  by_cases hd : d.coefficient = 0
  · rw [if_pos hd, toRat_eq_zero_iff.mpr hd, rounded_zero, if_neg (not_tooGreat_zero ctx)]
    exact congrArg Except.ok (toRat_eq_zero_iff.mpr hd)
  · rw [if_neg hd, ← toRat_fit hd]
    simp only [maxExponent_lt_adjusted_fit hd, toRat_fit hd]
    split
    · rfl
    · exact congrArg Except.ok (toRat_fit hd)

/-- Cutting a number off behind one digit more than the context keeps does not change what is delivered. -/
theorem delivered_truncated {ctx : Context} {e : ℤ} {x : ℚ} (hx : 10 ^ (e + ctx.precision) ≤ |x|) :
    ctx.delivered (truncated e x) = ctx.delivered x := by
  have hle : (10 : ℚ) ^ e ≤ |x| := (ten_zpow_le (by omega)).trans hx
  have hlog := (zpow_le_iff_le_log (ne_zero_of_zpow_le hx)).mp hx
  have hrounded : ctx.rounded (truncated e x) = ctx.rounded x := by
    rw [Context.rounded, log_truncated hle, nearest_truncated hle (by omega), Context.rounded]
  have hgreat : ctx.TooGreat (truncated e x) ↔ ctx.TooGreat x := by
    rw [Context.TooGreat, hrounded, Context.TooGreat]
  rw [Context.delivered, Context.delivered, hrounded]
  exact if_congr hgreat rfl rfl

/-- What delivers `x` overflows or is `x` rounded. -/
theorem delivered_cases {ctx : Context} {r : Except Signal Decimal} {x : ℚ}
    (h : toRat <$> r = ctx.delivered x) :
    r = .error .overflow ∧ ctx.TooGreat x ∨
      ∃ d, r = .ok d ∧ d.toRat = ctx.rounded x ∧ ¬ ctx.TooGreat x := by
  rw [Context.delivered] at h
  split at h
  · next hgreat =>
    cases r with
    | error s => cases h; exact .inl ⟨rfl, hgreat⟩
    | ok d => cases h
  · next hgreat =>
    cases r with
    | error s => cases h
    | ok d => exact .inr ⟨d, rfl, Except.ok.inj h, hgreat⟩

theorem eq_error_iff_of_delivered {ctx : Context} {r : Except Signal Decimal} {x : ℚ} {s : Signal}
    (h : toRat <$> r = ctx.delivered x) : r = .error s ↔ s = .overflow ∧ ctx.TooGreat x := by
  obtain ⟨rfl, hgreat⟩ | ⟨d, rfl, -, hgreat⟩ := delivered_cases h
  · constructor
    · rintro h
      cases h
      exact ⟨rfl, hgreat⟩
    · rintro ⟨rfl, -⟩
      rfl
  · exact iff_of_false (fun h => by cases h) fun h => hgreat h.2

/-- A power of ten that a number reaches its rounded value reaches as well. -/
theorem le_rounded {ctx : Context} {x : ℚ} {j : ℤ} (hj : ctx.least ≤ j) (hx : 10 ^ j ≤ x) :
    10 ^ j ≤ ctx.rounded x := by
  have hpos : 0 < x := (ten_zpow_pos j).trans_le hx
  have hlog : j ≤ Int.log 10 |x| := by
    rwa [← zpow_le_iff_le_log hpos.ne', abs_of_pos hpos]
  have hprecision := ctx.precision_pos
  rw [Context.rounded, ← abs_of_nonneg (nearest_nonneg hpos.le)]
  exact (ten_zpow_le hlog).trans (zpow_log_le_abs_nearest hpos.ne' (by omega))

/-! ### The normal range -/

/-- Below the normal range a number that rounds into it rounds to the same power of ten at the least exponent. -/
theorem rounded_eq_significant {ctx : Context} {x : ℚ} (h : Normal (significant ctx.precision x)) :
    ctx.rounded x = significant ctx.precision x := by
  rcases eq_or_ne x 0 with rfl | hx
  · rw [significant_zero]
    exact nearest_zero _
  obtain ⟨hlow, hhigh⟩ := abs_significant_bounds ctx.precision_pos hx
  have hmin : (10 : ℚ) ^ minExponent ≤ |significant ctx.precision x| := by
    rcases h with h | h
    · rw [h, abs_zero] at hlow
      exact absurd hlow (not_le.mpr (ten_zpow_pos _))
    · exact h.1
  rcases le_or_gt minExponent (Int.log 10 |x|) with hle | hlt
  · rw [Context.rounded, significant, max_eq_left]
    rw [Context.least]
    omega
  · -- rounded up into the range, out of the decade below
    have hlog : Int.log 10 |x| + 1 = minExponent := by
      have := (zpow_le_zpow_iff_right₀ (by norm_num)).mp (hmin.trans hhigh)
      omega
    have hcarry := le_antisymm hhigh (hlog ▸ hmin)
    rw [← nearest_eq_significant_of_carry ctx.precision_pos hcarry, Context.rounded, max_eq_right]
    · rw [Context.least, ← hlog]
      congr 1
      ring
    · rw [Context.least]
      omega

/-- A number between the least and the greatest power of ten rounds to a normal number. -/
theorem normal_significant {p : ℕ} (hp : 0 < p) {x : ℚ} (hlow : 10 ^ minExponent ≤ |x|)
    (hhigh : |x| < 10 ^ maxExponent) : Normal (significant p x) := by
  have hx := ne_zero_of_zpow_le hlow
  obtain ⟨h₁, h₂⟩ := abs_significant_bounds hp hx
  have hlog := (zpow_le_iff_le_log hx).mp hlow
  have hlog' : Int.log 10 |x| < maxExponent := by
    by_contra! h
    exact absurd ((zpow_le_iff_le_log hx).mpr h) hhigh.not_ge
  refine .inr ⟨(ten_zpow_le hlog).trans h₁, ?_⟩
  exact (h₂.trans (ten_zpow_le hlog')).trans_lt (zpow_lt_zpow_right₀ (by norm_num) (by omega))

/-- In the normal range an operation delivers its exact result, rounded to the digits of the context. -/
theorem delivered_eq_significant {ctx : Context} {x : ℚ}
    (h : Normal (significant ctx.precision x)) :
    ctx.delivered x = .ok (significant ctx.precision x) := by
  have hnot : ¬ ctx.TooGreat x := by
    rw [Context.TooGreat, rounded_eq_significant h, not_le]
    rcases h with h | h
    · rw [h, abs_zero]
      exact bound_pos
    · exact h.2
  rw [Context.delivered, rounded_eq_significant h, if_neg hnot]

end Reckoner.Decimal
