import Mathlib
import Reckoner.Token

/-!
# Rational — rounding to decimal digits

`Rational.nearest q x` is the multiple of `10 ^ q` nearest to `x`, and `Rational.significant p x` is `x` rounded to `p` significant digits; of two equally near numbers both take the one further from zero.  A number that has no more digits is left alone (`significant_eq_self`), and rounding never moves a number out of its decade except up to the next power of ten (`abs_significant_bounds`).
-/

namespace Reckoner.Rational

/-- The multiple of `10 ^ q` nearest to `x`, a half away from zero. -/
def nearest (q : ℤ) (x : ℚ) : ℚ := SignType.sign x * ⌊|x| / 10 ^ q + 1 / 2⌋ * 10 ^ q

/-- `x` to `p` significant digits, a half away from zero. -/
def significant (p : ℕ) (x : ℚ) : ℚ := nearest (Int.log 10 |x| - p + 1) x

/-- `x` is written with at most `p` significant digits. -/
def HasDigits (p : ℕ) (x : ℚ) : Prop := ∃ m e : ℤ, |m| < 10 ^ p ∧ x = m * 10 ^ e

/-! ### Powers of ten -/

theorem ten_zpow_pos (e : ℤ) : (0 : ℚ) < 10 ^ e := by positivity

theorem ten_zpow_le {e q : ℤ} (h : e ≤ q) : (10 : ℚ) ^ e ≤ 10 ^ q :=
  zpow_le_zpow_right₀ (by norm_num) h

theorem ten_zpow_sub_mul (e q : ℤ) : (10 : ℚ) ^ (e - q) * 10 ^ q = 10 ^ e := by
  rw [← zpow_add₀ (by norm_num), sub_add_cancel]

theorem ten_zpow_add (q : ℤ) (k : ℕ) : (10 : ℚ) ^ (q + k) = 10 ^ k * 10 ^ q := by
  rw [zpow_add₀ (by norm_num), zpow_natCast, mul_comm]

theorem zpow_log_le {x : ℚ} (hx : x ≠ 0) : (10 : ℚ) ^ Int.log 10 |x| ≤ |x| := by
  exact_mod_cast Int.zpow_log_le_self (b := 10) (by norm_num) (abs_pos.mpr hx)

theorem lt_zpow_log (x : ℚ) : |x| < (10 : ℚ) ^ (Int.log 10 |x| + 1) := by
  exact_mod_cast Int.lt_zpow_succ_log_self (b := 10) (by norm_num) |x|

theorem log_eq {x : ℚ} {e : ℤ} (hlow : 10 ^ e ≤ x) (hhigh : x < 10 ^ (e + 1)) :
    Int.log 10 x = e := by
  have hpos : 0 < x := (ten_zpow_pos e).trans_le hlow
  have h₁ := (Int.zpow_le_iff_le_log (b := 10) (by norm_num) hpos).mp (by exact_mod_cast hlow)
  have h₂ := (Int.lt_zpow_iff_log_lt (b := 10) (by norm_num) hpos).mp (by exact_mod_cast hhigh)
  omega

theorem zpow_le_iff_le_log {x : ℚ} {e : ℤ} (hx : x ≠ 0) :
    (10 : ℚ) ^ e ≤ |x| ↔ e ≤ Int.log 10 |x| := by
  rw [← Int.zpow_le_iff_le_log (b := 10) (by norm_num) (abs_pos.mpr hx)]
  norm_num

/-! ### The nearest multiple -/

@[simp] theorem nearest_zero (q : ℤ) : nearest q 0 = 0 := by simp [nearest]

theorem abs_sign_cast {x : ℚ} (hx : x ≠ 0) : |((SignType.sign x : SignType) : ℚ)| = 1 := by
  rcases lt_or_gt_of_ne hx with h | h
  · rw [sign_neg h]; simp
  · rw [sign_pos h]; simp

theorem abs_nearest (q : ℤ) (x : ℚ) :
    |nearest q x| = ⌊|x| / 10 ^ q + 1 / 2⌋ * 10 ^ q := by
  have hten := ten_zpow_pos q
  have hfloor : 0 ≤ ⌊|x| / 10 ^ q + 1 / 2⌋ := by positivity
  rcases eq_or_ne x 0 with rfl | hx
  · norm_num
  · rw [nearest, abs_mul, abs_mul, abs_sign_cast hx, one_mul, abs_of_pos hten,
      abs_of_nonneg (by exact_mod_cast hfloor)]

theorem nearest_nonneg {q : ℤ} {x : ℚ} (hx : 0 ≤ x) : 0 ≤ nearest q x := by
  have hfloor : 0 ≤ ⌊|x| / 10 ^ q + 1 / 2⌋ := by positivity
  have hsign : (0 : ℚ) ≤ (SignType.sign x : SignType) := by
    rcases hx.eq_or_lt with rfl | h
    · simp
    · simp [sign_pos h]
  rw [nearest]
  have hten := ten_zpow_pos q
  have hcast : (0 : ℚ) ≤ (⌊|x| / 10 ^ q + 1 / 2⌋ : ℤ) := by exact_mod_cast hfloor
  positivity

/-- Rounding below the leading digit takes a number no further down than to that digit. -/
theorem zpow_log_le_abs_nearest {q : ℤ} {x : ℚ} (hx : x ≠ 0) (hq : q ≤ Int.log 10 |x|) :
    10 ^ Int.log 10 |x| ≤ |nearest q x| := by
  obtain ⟨k, hk⟩ := Int.le.dest hq
  have hten := ten_zpow_pos q
  have hlow : ((10 ^ k : ℤ) : ℚ) ≤ |x| / 10 ^ q := by
    rw [le_div_iff₀ hten]
    push_cast
    rw [← ten_zpow_add, hk]
    exact zpow_log_le hx
  have hfloor : (10 ^ k : ℤ) ≤ ⌊|x| / 10 ^ q + 1 / 2⌋ := Int.le_floor.mpr (by linarith)
  rw [abs_nearest, ← hk, ten_zpow_add]
  gcongr
  exact_mod_cast hfloor

/-- A multiple is its own nearest multiple. -/
theorem nearest_eq_self {q : ℤ} {x : ℚ} {m : ℤ} (hx : x = m * 10 ^ q) : nearest q x = x := by
  have hten := ten_zpow_pos q
  have habs : |x| / 10 ^ q = (|m| : ℤ) := by
    rw [hx, abs_mul, abs_of_pos hten, mul_div_cancel_right₀ _ hten.ne', Int.cast_abs]
  have hfloor : ⌊((|m| : ℤ) : ℚ) + 1 / 2⌋ = |m| := by
    rw [Int.floor_intCast_add]; norm_num
  rw [nearest, habs, hfloor, ← habs, mul_assoc, div_mul_cancel₀ _ hten.ne', sign_mul_abs]

/-- Where rounding up ends in a zero, rounding to one digit less does the same. -/
theorem nearest_succ {q : ℤ} {x : ℚ} {m : ℤ} (hfloor : ⌊|x| / 10 ^ q + 1 / 2⌋ = 10 * m)
    (hlt : |x| / 10 ^ q < 10 * m) : nearest (q + 1) x = nearest q x := by
  have hlow := (Int.floor_eq_iff.mp hfloor).1
  have hdiv : |x| / 10 ^ (q + 1) = |x| / 10 ^ q / 10 := by
    rw [zpow_add_one₀ (by norm_num), div_mul_eq_div_div]
  have hfloor' : ⌊|x| / 10 ^ (q + 1) + 1 / 2⌋ = m := by
    rw [Int.floor_eq_iff, hdiv]
    push_cast at hlow
    constructor <;> linarith
  rw [nearest, nearest, hfloor, hfloor', zpow_add_one₀ (by norm_num)]
  push_cast
  ring

/-! ### Truncation before rounding -/

/-- `x` without the digits below `10 ^ e`. -/
def truncated (e : ℤ) (x : ℚ) : ℚ := SignType.sign x * (⌊|x| / 10 ^ e⌋ * 10 ^ e)

theorem one_le_floor {e : ℤ} {x : ℚ} (hx : 10 ^ e ≤ |x|) : 1 ≤ ⌊|x| / 10 ^ e⌋ := by
  rw [Int.le_floor, Int.cast_one, one_le_div (ten_zpow_pos e)]
  exact hx

theorem ne_zero_of_zpow_le {e : ℤ} {x : ℚ} (hx : 10 ^ e ≤ |x|) : x ≠ 0 :=
  abs_pos.mp ((ten_zpow_pos e).trans_le hx)

theorem abs_truncated {e : ℤ} {x : ℚ} (hx : 10 ^ e ≤ |x|) :
    |truncated e x| = ⌊|x| / 10 ^ e⌋ * 10 ^ e := by
  have hfloor : (0 : ℚ) ≤ ⌊|x| / 10 ^ e⌋ := by exact_mod_cast (one_le_floor hx).trans' (by decide)
  have hten := ten_zpow_pos e
  rw [truncated, abs_mul, abs_sign_cast (ne_zero_of_zpow_le hx), one_mul, abs_of_nonneg (by positivity)]

theorem sign_truncated {e : ℤ} {x : ℚ} (hx : 10 ^ e ≤ |x|) :
    SignType.sign (truncated e x) = SignType.sign x := by
  have hfloor : (1 : ℚ) ≤ ⌊|x| / 10 ^ e⌋ := by exact_mod_cast one_le_floor hx
  have hpos : 0 < (⌊|x| / 10 ^ e⌋ : ℚ) * 10 ^ e := mul_pos (by linarith) (ten_zpow_pos e)
  rw [truncated, sign_mul, sign_pos hpos, mul_one]
  rcases lt_or_gt_of_ne (ne_zero_of_zpow_le hx) with h | h
  · rw [sign_neg h]; simp
  · rw [sign_pos h]; simp

/-- The leading digit stays. -/
theorem log_truncated {e : ℤ} {x : ℚ} (hx : 10 ^ e ≤ |x|) :
    Int.log 10 |truncated e x| = Int.log 10 |x| := by
  have hne := ne_zero_of_zpow_le hx
  have hten := ten_zpow_pos e
  obtain ⟨k, hk⟩ := Int.le.dest ((zpow_le_iff_le_log hne).mp hx)
  rw [abs_truncated hx]
  apply log_eq
  · have : ((10 ^ k : ℤ) : ℚ) ≤ |x| / 10 ^ e := by
      rw [le_div_iff₀ hten]
      push_cast
      rw [← ten_zpow_add, hk]
      exact zpow_log_le hne
    rw [← hk, ten_zpow_add]
    gcongr
    exact_mod_cast Int.le_floor.mpr this
  · calc _ ≤ |x| / 10 ^ e * 10 ^ e := by gcongr; exact Int.floor_le _
      _ = |x| := div_mul_cancel₀ _ hten.ne'
      _ < _ := lt_zpow_log x

/-- A half goes up, so what lies below the digit after the last one kept cannot change the rounding. -/
theorem floor_half_floor (y : ℚ) {k : ℕ} (hk : 0 < k) :
    ⌊(⌊y⌋ : ℚ) / 10 ^ k + 1 / 2⌋ = ⌊y / 10 ^ k + 1 / 2⌋ := by
  obtain ⟨j, rfl⟩ : ∃ j, k = j + 1 := ⟨k - 1, by omega⟩
  have hten : (0 : ℚ) < 10 ^ (j + 1) := by positivity
  obtain ⟨hlow, hhigh⟩ := Int.floor_eq_iff.mp
    (rfl : ⌊y / 10 ^ (j + 1) + 1 / 2⌋ = ⌊y / 10 ^ (j + 1) + 1 / 2⌋)
  set z := ⌊y / 10 ^ (j + 1) + 1 / 2⌋
  -- the midpoint between two multiples is a whole number
  have hmid : ((z * 10 ^ (j + 1) - 5 * 10 ^ j : ℤ) : ℚ) ≤ y := by
    rw [← sub_le_iff_le_add, le_div_iff₀ hten] at hlow
    push_cast
    rw [pow_succ] at hlow ⊢
    linarith
  have hfloor := Int.le_floor.mpr hmid
  refine Int.floor_eq_iff.mpr ⟨?_, ?_⟩
  · have : ((z * 10 ^ (j + 1) - 5 * 10 ^ j : ℤ) : ℚ) ≤ ⌊y⌋ := by exact_mod_cast hfloor
    rw [← sub_le_iff_le_add, le_div_iff₀ hten]
    push_cast at this
    rw [pow_succ] at this ⊢
    linarith
  · have : (⌊y⌋ : ℚ) / 10 ^ (j + 1) ≤ y / 10 ^ (j + 1) := by gcongr; exact Int.floor_le y
    linarith

theorem nearest_truncated {e q : ℤ} {x : ℚ} (hx : 10 ^ e ≤ |x|) (hq : e < q) :
    nearest q (truncated e x) = nearest q x := by
  obtain ⟨k, rfl⟩ : ∃ k : ℕ, q = e + k := ⟨(q - e).toNat, by omega⟩
  have hscale : ∀ y : ℚ, y / 10 ^ (e + k) = y / 10 ^ e / 10 ^ k := fun y => by
    rw [ten_zpow_add, mul_comm, div_mul_eq_div_div]
  rw [nearest, nearest, sign_truncated hx, hscale, hscale, abs_truncated hx,
    mul_div_cancel_right₀ _ (ten_zpow_pos e).ne', floor_half_floor _ (by omega)]

/-! ### Significant digits -/

@[simp] theorem significant_zero (p : ℕ) : significant p 0 = 0 := nearest_zero _

/-- Where `p` digits, the last of them at `10 ^ e`, begin at the latest. -/
theorem log_lt_of_digits {p : ℕ} {m e : ℤ} (hm : |m| < 10 ^ p) (hne : (m : ℚ) * 10 ^ e ≠ 0) :
    Int.log 10 |(m : ℚ) * 10 ^ e| < p + e := by
  rw [← Int.lt_zpow_iff_log_lt (b := 10) (by norm_num) (abs_pos.mpr hne), abs_mul,
    abs_of_pos (ten_zpow_pos e)]
  push_cast
  rw [zpow_add₀ (by norm_num), zpow_natCast]
  have : (|m| : ℚ) < 10 ^ p := by exact_mod_cast hm
  gcongr

/-- A number with no digit below `10 ^ q` is its own nearest multiple. -/
theorem nearest_mul_zpow {q e : ℤ} (hq : q ≤ e) (m : ℤ) :
    nearest q ((m : ℚ) * 10 ^ e) = m * 10 ^ e := by
  refine nearest_eq_self (m := m * 10 ^ (e - q).toNat) ?_
  push_cast
  rw [mul_assoc, ← zpow_natCast, Int.toNat_of_nonneg (by omega), ten_zpow_sub_mul]

/-- A number of at most `p` digits is not changed. -/
theorem significant_eq_self {p : ℕ} {x : ℚ} (hx : HasDigits p x) : significant p x = x := by
  rcases eq_or_ne x 0 with rfl | hne
  · simp
  obtain ⟨m, e, hm, rfl⟩ := hx
  have hlog := log_lt_of_digits hm hne
  exact nearest_mul_zpow (by omega) m

/-- The end of the decade of a number, in units of the digit `k` places behind the leading one. -/
theorem div_lt_ten_pow (x : ℚ) (k : ℕ) : |x| / 10 ^ (Int.log 10 |x| - k) < 10 ^ (k + 1) := by
  rw [div_lt_iff₀ (ten_zpow_pos _), ← ten_zpow_add, Nat.cast_succ, ← add_assoc, sub_add_cancel]
  exact lt_zpow_log x

theorem floor_half_le {y : ℚ} {n : ℤ} (hn : y < n) : ⌊y + 1 / 2⌋ ≤ n :=
  Int.lt_add_one_iff.mp (Int.floor_lt.mpr (by push_cast; linarith))

/-- Rounding keeps a number in its decade, or takes it up to the next power of ten. -/
theorem abs_significant_bounds {p : ℕ} (hp : 0 < p) {x : ℚ} (hx : x ≠ 0) :
    10 ^ Int.log 10 |x| ≤ |significant p x| ∧ |significant p x| ≤ 10 ^ (Int.log 10 |x| + 1) := by
  refine ⟨zpow_log_le_abs_nearest hx (by omega), ?_⟩
  obtain ⟨k, rfl⟩ : ∃ k, p = k + 1 := ⟨p - 1, by omega⟩
  have hfloor := floor_half_le (n := 10 ^ (k + 1)) (by exact_mod_cast div_lt_ten_pow x k)
  have hten := ten_zpow_pos (Int.log 10 |x| - k)
  rw [significant, abs_nearest,
    show Int.log 10 |x| - (k + 1 : ℕ) + 1 = Int.log 10 |x| - k by push_cast; ring]
  calc _ ≤ ((10 ^ (k + 1) : ℤ) : ℚ) * 10 ^ (Int.log 10 |x| - k) := by gcongr
    _ = 10 ^ (Int.log 10 |x| + 1) := by
        push_cast; rw [← ten_zpow_add]; congr 1; push_cast; ring

/-- A carry out of the decade leaves a zero behind, so one digit less gives the same. -/
theorem nearest_eq_significant_of_carry {p : ℕ} (hp : 0 < p) {x : ℚ}
    (hcarry : |significant p x| = 10 ^ (Int.log 10 |x| + 1)) :
    nearest (Int.log 10 |x| - p + 1 + 1) x = significant p x := by
  obtain ⟨k, rfl⟩ : ∃ k, p = k + 1 := ⟨p - 1, by omega⟩
  have hexp : Int.log 10 |x| - (k + 1 : ℕ) + 1 = Int.log 10 |x| - k := by push_cast; ring
  have hlt := div_lt_ten_pow x k
  rw [significant, hexp] at hcarry ⊢
  have hsplit : (10 : ℚ) ^ (Int.log 10 |x| + 1) = 10 ^ (k + 1) * 10 ^ (Int.log 10 |x| - k) := by
    rw [← ten_zpow_add]
    congr 1
    push_cast
    ring
  rw [abs_nearest, hsplit] at hcarry
  have hfloor := mul_right_cancel₀ (ten_zpow_pos (Int.log 10 |x| - k)).ne' hcarry
  refine nearest_succ (m := 10 ^ k) ?_ ?_
  · rw [← pow_succ']
    exact_mod_cast hfloor
  · rw [pow_succ'] at hlt
    exact_mod_cast hlt

end Reckoner.Rational
