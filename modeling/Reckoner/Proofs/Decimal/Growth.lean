import Reckoner.Proofs.Decimal.Arithmetic

/-!
# Decimal — how far a result can lie from one

A number `Spans` `k` if its digits stand between the places `k` and `-k`.  A bound on the size alone would not do: what is left of a difference can be its last digit, and a quotient by it is great.  An exact result of numbers that span `k` and `l` need not span anything, but its first digits do, and those are kept (`Settles`): it rounds to a number that spans `k + l + p + 2`, where `p` digits are kept (`Spans.settles_div`, `Settles.spans`).  So long as that is less than the greatest exponent, the result stays in the normal range (`Settles.normal`).
-/

namespace Reckoner

namespace Rational

variable {e e' q : ℤ} {p k l : ℕ} {x y : ℚ}

/-! ### Whole numbers of units -/

/-- `x` is a whole number of units `10 ^ e`. -/
def Whole (e : ℤ) (x : ℚ) : Prop := ∃ m : ℤ, x = m * 10 ^ e

namespace Whole

theorem mono (h : Whole e x) (he : e' ≤ e) : Whole e' x := by
  obtain ⟨m, rfl⟩ := h
  refine ⟨m * 10 ^ (e - e').toNat, ?_⟩
  push_cast
  rw [mul_assoc, ← zpow_natCast, Int.toNat_of_nonneg (by omega), ten_zpow_sub_mul]

theorem add (hx : Whole e x) (hy : Whole e y) : Whole e (x + y) := by
  obtain ⟨m, rfl⟩ := hx
  obtain ⟨n, rfl⟩ := hy
  exact ⟨m + n, by push_cast; ring⟩

theorem sub (hx : Whole e x) (hy : Whole e y) : Whole e (x - y) := by
  obtain ⟨m, rfl⟩ := hx
  obtain ⟨n, rfl⟩ := hy
  exact ⟨m - n, by push_cast; ring⟩

theorem mul (hx : Whole e x) (hy : Whole e' y) : Whole (e + e') (x * y) := by
  obtain ⟨m, rfl⟩ := hx
  obtain ⟨n, rfl⟩ := hy
  exact ⟨m * n, by rw [zpow_add₀ (by norm_num)]; push_cast; ring⟩

theorem div_hundred (h : Whole e x) : Whole (e - 2) (x / 100) := by
  obtain ⟨m, rfl⟩ := h
  exact ⟨m, by rw [zpow_sub₀ (by norm_num)]; norm_num; ring⟩

/-- A number other than zero is at least one unit. -/
theorem le_abs (h : Whole e x) (hx : x ≠ 0) : 10 ^ e ≤ |x| := by
  obtain ⟨m, rfl⟩ := h
  have hm : m ≠ 0 := by
    rintro rfl
    simp at hx
  have hone : (1 : ℚ) ≤ |(m : ℚ)| := by exact_mod_cast Int.one_le_abs hm
  rw [abs_mul, abs_of_pos (ten_zpow_pos e)]
  exact le_mul_of_one_le_left (ten_zpow_pos e).le hone

theorem le_log (h : Whole e x) (hx : x ≠ 0) : e ≤ Int.log 10 |x| :=
  (zpow_le_iff_le_log hx).mp (h.le_abs hx)

end Whole

theorem whole_nearest (q : ℤ) (x : ℚ) : Whole q (nearest q x) := by
  rcases lt_trichotomy x 0 with hx | rfl | hx
  · exact ⟨-⌊|x| / 10 ^ q + 1 / 2⌋, by rw [nearest, sign_neg hx]; simp⟩
  · exact ⟨0, by simp⟩
  · exact ⟨⌊|x| / 10 ^ q + 1 / 2⌋, by rw [nearest, sign_pos hx]; simp⟩

/-- Rounding makes no digits. -/
theorem Whole.nearest (h : Whole e x) (q : ℤ) : Whole e (nearest q x) := by
  rcases le_total q e with hq | hq
  · obtain ⟨m, rfl⟩ := h
    exact ⟨m, nearest_mul_zpow hq m⟩
  · exact (whole_nearest q x).mono hq

/-- Rounding takes no number past a power of ten. -/
theorem abs_nearest_le {j : ℤ} (hq : q ≤ j) (hx : |x| ≤ 10 ^ j) : |nearest q x| ≤ 10 ^ j := by
  have hten : |(10 : ℚ) ^ j| = 10 ^ j := abs_of_pos (ten_zpow_pos j)
  have hpower : nearest q (10 ^ j) = 10 ^ j := by simpa using nearest_mul_zpow hq 1
  rw [← hten, ← hpower, abs_nearest, abs_nearest, hten]
  have := ten_zpow_pos q
  gcongr

/-! ### Digits around the point -/

/-- The digits of `x` stand between the places `k` and `-k`. -/
structure Spans (k : ℕ) (x : ℚ) : Prop where
  whole : Whole (-k) x
  lt : |x| < 10 ^ (k + 1 : ℤ)

/-- Rounded to `p` digits, `x` stands between the places `k` and `-k`, and is no more than one at the place `k`. -/
structure Settles (p k : ℕ) (x : ℚ) : Prop where
  le : |x| ≤ 10 ^ (k : ℤ)
  whole : x ≠ 0 → Whole (-k) x ∨ -(k : ℤ) ≤ Int.log 10 |x| - p + 1

theorem settles_zero (p k : ℕ) : Settles p k 0 :=
  ⟨by simp, fun h => absurd rfl h⟩

theorem Settles.mono (h : Settles p k x) (hk : k ≤ l) : Settles p l x :=
  ⟨h.le.trans (ten_zpow_le (by omega)), fun hx =>
    (h.whole hx).imp (·.mono (by omega)) fun hlog => by omega⟩

/-- The first digit stands no lower than the last place. -/
theorem Settles.le_log (h : Settles p k x) (hp : 0 < p) (hx : x ≠ 0) : -(k : ℤ) ≤ Int.log 10 |x| := by
  rcases h.whole hx with hwhole | hlog
  · exact hwhole.le_log hx
  · omega

/-! ### Exact results -/

namespace Spans

theorem mono (h : Spans k x) (hk : k ≤ l) : Spans l x :=
  ⟨h.whole.mono (by omega), h.lt.trans_le (ten_zpow_le (by omega))⟩

theorem abs_le (h : Spans k x) : |x| ≤ 10 ^ (k + 1 : ℤ) := h.lt.le

/-- Tenfold is more than double. -/
theorem abs_add_abs_le (hx : Spans k x) (hy : Spans l y) : |x| + |y| ≤ 10 ^ ((k + l + 2 : ℕ) : ℤ) := by
  have hk : (10 : ℚ) ^ (k + 1 : ℤ) ≤ 10 ^ (k + l + 1 : ℤ) := ten_zpow_le (by omega)
  have hl : (10 : ℚ) ^ (l + 1 : ℤ) ≤ 10 ^ (k + l + 1 : ℤ) := ten_zpow_le (by omega)
  have hten : (10 : ℚ) ^ ((k + l + 2 : ℕ) : ℤ) = 10 ^ (k + l + 1 : ℤ) * 10 := by
    rw [← zpow_add_one₀ (by norm_num)]
    congr 1
  have := hx.abs_le
  have := hy.abs_le
  have := ten_zpow_pos (k + l + 1)
  linarith

theorem settles_add (hx : Spans k x) (hy : Spans l y) (p : ℕ) : Settles p (k + l + 2) (x + y) :=
  ⟨(abs_add_le x y).trans (hx.abs_add_abs_le hy), fun _ =>
    .inl ((hx.whole.mono (by omega)).add (hy.whole.mono (by omega)))⟩

theorem settles_sub (hx : Spans k x) (hy : Spans l y) (p : ℕ) : Settles p (k + l + 2) (x - y) :=
  ⟨(abs_sub x y).trans (hx.abs_add_abs_le hy), fun _ =>
    .inl ((hx.whole.mono (by omega)).sub (hy.whole.mono (by omega)))⟩

theorem settles_mul (hx : Spans k x) (hy : Spans l y) (p : ℕ) : Settles p (k + l + 2) (x * y) := by
  refine ⟨?_, fun _ => .inl ((hx.whole.mul hy.whole).mono (by omega))⟩
  calc |x * y| = |x| * |y| := abs_mul x y
    _ ≤ 10 ^ (k + 1 : ℤ) * 10 ^ (l + 1 : ℤ) := by gcongr; exacts [hx.abs_le, hy.abs_le]
    _ = 10 ^ ((k + l + 2 : ℕ) : ℤ) := by
        rw [← zpow_add₀ (by norm_num)]; congr 1; push_cast; ring

/-- A quotient may have any number of digits, but those kept begin where it is least. -/
theorem settles_div (hx : Spans k x) (hy : Spans l y) (p : ℕ) : Settles p (k + l + p + 2) (x / y) := by
  rcases eq_or_ne y 0 with rfl | hyz
  · rw [div_zero]
    exact settles_zero _ _
  have hylow := hy.whole.le_abs hyz
  have hypos := (ten_zpow_pos _).trans_le hylow
  refine ⟨?_, fun hxy => .inr ?_⟩
  · calc |x / y| = |x| / |y| := abs_div x y
      _ ≤ 10 ^ (k + 1 : ℤ) / 10 ^ (-l : ℤ) := by gcongr; exact hx.abs_le
      _ = 10 ^ (k + l + 1 : ℤ) := by rw [← zpow_sub₀ (by norm_num)]; congr 1; ring
      _ ≤ 10 ^ ((k + l + p + 2 : ℕ) : ℤ) := ten_zpow_le (by push_cast; omega)
  · have hxz : x ≠ 0 := fun h => hxy (by rw [h, zero_div])
    have hlow : (10 : ℚ) ^ (-(k + l + 1) : ℤ) ≤ |x / y| := by
      calc (10 : ℚ) ^ (-(k + l + 1) : ℤ) = 10 ^ (-k : ℤ) / 10 ^ (l + 1 : ℤ) := by
            rw [← zpow_sub₀ (by norm_num)]; congr 1; ring
        _ ≤ |x| / |y| := by gcongr; exacts [hx.whole.le_abs hxz, hy.abs_le]
        _ = |x / y| := (abs_div x y).symm
    have := (zpow_le_iff_le_log hxy).mp hlow
    push_cast
    omega

theorem abs_div_hundred_le (h : Spans k x) : |x / 100| ≤ 10 ^ (k : ℤ) := by
  have hlt := h.lt
  rw [zpow_add_one₀ (by norm_num)] at hlt
  have := ten_zpow_pos k
  rw [abs_div, abs_of_pos (show (0 : ℚ) < 100 by norm_num), div_le_iff₀ (by norm_num)]
  linarith

theorem settles_fraction (h : Spans k x) (p : ℕ) : Settles p (k + 2) (x / 100) :=
  ⟨h.abs_div_hundred_le.trans (ten_zpow_le (by omega)), fun _ =>
    .inl (h.whole.div_hundred.mono (by push_cast; omega))⟩

end Spans

end Rational

namespace Decimal

open Rational

variable {ctx : Context} {x : ℚ} {j : ℤ}

/-! ### Results as they are rounded -/

theorem Context.abs_rounded_le (hj : ctx.least ≤ j) (hx : |x| ≤ 10 ^ j) : |ctx.rounded x| ≤ 10 ^ j := by
  rcases eq_or_ne x 0 with rfl | hne
  · rw [rounded_zero, abs_zero]
    exact (ten_zpow_pos j).le
  · have hlog : Int.log 10 |x| ≤ j :=
      (zpow_le_zpow_iff_right₀ (by norm_num)).mp ((zpow_log_le hne).trans hx)
    have := ctx.precision_pos
    exact abs_nearest_le (max_le (by omega) hj) hx

theorem Context.least_le_natCast (ctx : Context) (k : ℕ) : ctx.least ≤ k := by
  have := ctx.precision_pos
  rw [Context.least, minExponent]
  omega

theorem not_tooGreat_of_le (hj : ctx.least ≤ j) (hmax : j ≤ maxExponent) (hx : |x| ≤ 10 ^ j) :
    ¬ ctx.TooGreat x :=
  not_le.mpr ((Context.abs_rounded_le hj hx).trans_lt (zpow_lt_zpow_right₀ (by norm_num) (by omega)))

end Decimal

namespace Rational

open Decimal (Context Normal maxExponent minExponent)

variable {ctx : Context} {k l : ℕ} {x y : ℚ}

namespace Settles

theorem abs_rounded_le (h : Settles ctx.precision k x) : |ctx.rounded x| ≤ 10 ^ (k : ℤ) :=
  Context.abs_rounded_le (ctx.least_le_natCast k) h.le

theorem whole_rounded (h : Settles ctx.precision k x) : Whole (-k) (ctx.rounded x) := by
  rcases eq_or_ne x 0 with rfl | hx
  · exact ⟨0, by simp⟩
  rcases h.whole hx with hwhole | hlog
  · exact hwhole.nearest _
  · exact (whole_nearest _ x).mono (hlog.trans (le_max_left _ _))

/-- **What is kept of a result spans what the result settles to.** -/
theorem spans (h : Settles ctx.precision k x) : Spans k (ctx.rounded x) :=
  ⟨h.whole_rounded, h.abs_rounded_le.trans_lt (zpow_lt_zpow_right₀ (by norm_num) (by omega))⟩

theorem log_rounded (h : Settles ctx.precision k x) (hne : ctx.rounded x ≠ 0) :
    -(k : ℤ) ≤ Int.log 10 |ctx.rounded x| ∧ Int.log 10 |ctx.rounded x| ≤ k :=
  ⟨h.whole_rounded.le_log hne,
    (zpow_le_zpow_iff_right₀ (by norm_num)).mp ((zpow_log_le hne).trans h.abs_rounded_le)⟩

/-- **Within the range of exponents no digits are lost to it.** -/
theorem normal {p : ℕ} (h : Settles p k x) (hp : 0 < p) (hk : (k : ℤ) < maxExponent) :
    Normal (significant p x) := by
  rcases eq_or_ne x 0 with rfl | hx
  · exact .inl (significant_zero p)
  · refine Decimal.normal_significant hp ?_ (h.le.trans_lt (zpow_lt_zpow_right₀ (by norm_num) hk))
    have hmin : minExponent ≤ -(k : ℤ) := by
      rw [maxExponent] at hk
      rw [minExponent]
      omega
    exact (zpow_le_iff_le_log hx).mpr (hmin.trans (h.le_log hp hx))

end Settles

/-- Only the fraction is rounded before: the share of a number takes no more than one operation. -/
theorem Spans.settles_share (hx : Spans k x) (hy : Spans l y) :
    Settles ctx.precision (k + l + ctx.precision + 2) (y * ctx.rounded (x / 100)) := by
  have hle : |ctx.rounded (x / 100)| ≤ 10 ^ (k : ℤ) :=
    Context.abs_rounded_le (ctx.least_le_natCast k) hx.abs_div_hundred_le
  have hwhole := hy.whole.mul (hx.settles_fraction ctx.precision).whole_rounded
  refine ⟨?_, fun _ => .inl (hwhole.mono (by push_cast; omega))⟩
  calc |y * ctx.rounded (x / 100)| = |y| * |ctx.rounded (x / 100)| := abs_mul _ _
    _ ≤ 10 ^ (l + 1 : ℤ) * 10 ^ (k : ℤ) := by gcongr; exact hy.abs_le
    _ = 10 ^ (k + l + 1 : ℤ) := by rw [← zpow_add₀ (by norm_num)]; congr 1; ring
    _ ≤ 10 ^ ((k + l + ctx.precision + 2 : ℕ) : ℤ) := ten_zpow_le (by push_cast; omega)

end Rational

end Reckoner
