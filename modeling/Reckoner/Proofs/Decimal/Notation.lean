import Reckoner.Decimal.Notation
import Reckoner.Proofs.Decimal.Fit
import Reckoner.Proofs.Numeral

/-!
# Decimal — what is written can be read

Plain notation writes a number without its sign as a numeral, and the numeral has the value of the number: `body_reads`.  The numeral has no exponent, so zeros in front of the point are read as digits (`spread`), perhaps more of them than a context keeps; rounding gives the same notation back (`round_spread`).

What a reader sees of a number depends on its value only (`display_eq_of_toRat_eq`), and is the plain notation of a number of that value (`bare`).
-/

namespace Reckoner

namespace Numeral

open Decimal (isDigit)

variable {ds es : List Char}

theorem point_notMem (hds : ∀ c ∈ ds, isDigit c = true) : '.' ∉ ds := fun h =>
  absurd (hds _ h) (by decide)

theorem front_append_point (hds : '.' ∉ ds) : front (ds ++ '.' :: es) = ds := by
  have hne : ∀ c ∈ ds, decide (c ≠ '.') = true := fun c hc =>
    decide_eq_true (ne_of_mem_of_not_mem hc hds)
  rw [front, List.takeWhile_append_of_pos hne]
  simp

theorem back_append_point (hds : '.' ∉ ds) : back (ds ++ '.' :: es) = es := by
  have hne : ∀ c ∈ ds, decide (c ≠ '.') = true := fun c hc =>
    decide_eq_true (ne_of_mem_of_not_mem hc hds)
  rw [back, List.dropWhile_append_of_pos hne]
  simp

theorem cut_of_notMem (hds : '.' ∉ ds) : front ds = ds ∧ back ds = [] := by
  rcases cut ds with h | h
  · exact h
  · exact absurd (by rw [← h]; simp) hds

theorem wellFormed_of_digits (hds : ∀ c ∈ ds, isDigit c = true) (hne : ds ≠ []) : WellFormed ds := by
  obtain ⟨c, hc⟩ := List.exists_mem_of_ne_nil ds hne
  refine ⟨fun c hc => .inl (hds c hc), ?_, c, hc, hds c hc⟩
  rw [List.count_eq_zero.mpr (point_notMem hds)]
  exact Nat.zero_le 1

theorem wellFormed_of_pointed (hds : ∀ c ∈ ds, isDigit c = true) (hes : ∀ c ∈ es, isDigit c = true)
    (hne : ds ≠ []) : WellFormed (ds ++ '.' :: es) := by
  obtain ⟨c, hc⟩ := List.exists_mem_of_ne_nil ds hne
  refine ⟨fun d hd => ?_, ?_, c, List.mem_append_left _ hc, hds c hc⟩
  · rcases List.mem_append.mp hd with hd | hd
    · exact .inl (hds d hd)
    · exact (List.mem_cons.mp hd).symm.imp_left (hes d)
  · rw [List.count_append, List.count_cons_self, List.count_eq_zero.mpr (point_notMem hds),
      List.count_eq_zero.mpr (point_notMem hes)]

end Numeral

namespace Decimal

open Rational

variable {ctx : Context} {a b d r : Decimal}

/-! ### Digits -/

theorem isDigit_of_mem_digits {n : ℕ} {c : Char} (h : c ∈ digits n) : isDigit c = true := by
  have hdigit := Nat.isDigit_of_mem_toDigits (by decide) (by decide) h
  simpa [Char.isDigit, isDigit, Char.le_def] using hdigit

theorem digits_ne_nil (n : ℕ) : digits n ≠ [] := Nat.toDigits_ne_nil

theorem ofDigits_digits (n : ℕ) : ofDigits (digits n) = n := Nat.ofDigitChars_ten_toDigits

theorem isDigit_of_mem_replicate {k : ℕ} {c : Char} (h : c ∈ List.replicate k '0') :
    isDigit c = true := by
  rw [List.eq_of_mem_replicate h]
  decide

/-- Zeros in front count nothing. -/
theorem ofDigits_replicate_append (k : ℕ) (cs : List Char) :
    ofDigits (List.replicate k '0' ++ cs) = ofDigits cs := by
  induction k with
  | zero => rfl
  | succ k ih =>
    rw [List.replicate_succ, List.cons_append, ← ih]
    rfl

/-- Each zero behind counts ten times. -/
theorem digits_mul_tenPow {n : ℕ} (hn : n ≠ 0) (k : ℕ) :
    digits (n * tenPow k) = digits n ++ List.replicate k '0' := by
  induction k with
  | zero => simp [tenPow_zero]
  | succ k ih =>
    have hpos : 0 < n * tenPow k := Nat.mul_pos (Nat.pos_of_ne_zero hn) (tenPow_pos k)
    have happend := Nat.toDigits_append_toDigits (b := 10) (d := 0) (by decide) hpos (by decide)
    rw [List.replicate_succ', ← List.append_assoc, ← ih, tenPow_succ, ← Nat.mul_assoc,
      Nat.mul_comm _ 10]
    exact happend.symm

/-! ### Writing and reading -/

/-- The plain notation without the sign. -/
def body (d : Decimal) : List Char :=
  if 0 ≤ d.exponent then filled d.coefficient d.exponent.toNat
  else pointed d.coefficient (-d.exponent).toNat

/-- With the zeros in front of the point among the digits. -/
def spread (d : Decimal) : Decimal :=
  if 0 ≤ d.exponent then ⟨d.negative, d.coefficient * tenPow d.exponent.toNat, 0⟩ else d

theorem plain_eq (d : Decimal) :
    d.plain = .ofList (if d.negative then '-' :: d.body else d.body) := rfl

@[simp] theorem negative_spread (d : Decimal) : d.spread.negative = d.negative := by
  rw [spread]; split <;> rfl

theorem exponent_spread_le (d : Decimal) : d.spread.exponent ≤ 0 := by
  rw [spread]
  split
  · exact le_rfl
  · next h => exact (not_le.mp h).le

@[simp] theorem toRat_spread (d : Decimal) : d.spread.toRat = d.toRat := by
  rw [spread]
  split
  · next h =>
    rw [toRat, toRat]
    push_cast
    rw [tenPow_eq, mul_one, ← zpow_natCast, Int.toNat_of_nonneg h]
  · rfl

theorem filled_eq (n k : ℕ) : filled n k = digits (n * tenPow k) := by
  rw [filled]
  split
  · next hn => rw [hn, Nat.zero_mul]; rfl
  · next hn => rw [digits_mul_tenPow hn]

theorem body_of_nonneg (hd : 0 ≤ d.exponent) :
    d.body = digits (d.coefficient * tenPow d.exponent.toNat) := by
  rw [body, if_pos hd, filled_eq]

theorem body_spread (d : Decimal) : d.spread.body = d.body := by
  rw [spread]
  split
  · next h => rw [body_of_nonneg h, body_of_nonneg le_rfl]; simp [tenPow_zero]
  · rfl

@[simp] theorem plain_spread (d : Decimal) : d.spread.plain = d.plain := by
  rw [plain_eq, plain_eq, body_spread, negative_spread]

/-- The digits, with zeros in front where the point would come first. -/
def padded (n places : ℕ) : List Char := List.replicate (places + 1 - (digits n).length) '0' ++ digits n

theorem isDigit_of_mem_padded {n places : ℕ} {c : Char} (h : c ∈ padded n places) :
    isDigit c = true := by
  rcases List.mem_append.mp h with h | h
  · exact isDigit_of_mem_replicate h
  · exact isDigit_of_mem_digits h

theorem lt_length_padded (n places : ℕ) : places < (padded n places).length := by
  rw [padded, List.length_append, List.length_replicate]
  omega

/-- The digits in front of the point, and those behind it. -/
theorem pointed_eq (n places : ℕ) : ∃ ds es, pointed n places = ds ++ '.' :: es ∧
    ds ++ es = padded n places ∧ ds ≠ [] ∧ es.length = places := by
  have hlength := lt_length_padded n places
  refine ⟨_, _, rfl, List.take_append_drop _ _, ?_, ?_⟩
  · rw [← padded, Ne, List.take_eq_nil_iff, not_or]
    exact ⟨by omega, List.ne_nil_of_length_pos (by omega)⟩
  · rw [← padded, List.length_drop]
    omega

/-- **What is written can be read.**  The notation without the sign is a numeral, with the value of the number but for its sign. -/
theorem body_reads (d : Decimal) : Numeral.WellFormed d.body ∧
    Numeral.value (.ofList d.body) = .ok { d.spread with negative := false } := by
  by_cases hd : 0 ≤ d.exponent
  · have hdigits : ∀ c ∈ d.body, isDigit c = true := by
      rw [body_of_nonneg hd]
      exact fun c => isDigit_of_mem_digits
    have hform : Numeral.WellFormed d.body :=
      Numeral.wellFormed_of_digits hdigits (by rw [body_of_nonneg hd]; exact digits_ne_nil _)
    refine ⟨hform, ?_⟩
    obtain ⟨hfront, hback⟩ := Numeral.cut_of_notMem (Numeral.point_notMem hdigits)
    rw [Numeral.WellFormed.value_eq (by rwa [String.toList_ofList]), String.toList_ofList, hfront,
      hback, List.append_nil, ← Numeral.ofDigits_eq, body_of_nonneg hd, ofDigits_digits, spread, if_pos hd]
    rfl
  · obtain ⟨ds, es, hpointed, hpadded, hne, hlength⟩ :=
      pointed_eq d.coefficient (-d.exponent).toNat
    have hbody : d.body = ds ++ '.' :: es := by rw [body, if_neg hd, hpointed]
    have hdigits : ∀ c ∈ ds ++ es, isDigit c = true := fun c hc =>
      isDigit_of_mem_padded (hpadded ▸ hc)
    have hds : ∀ c ∈ ds, isDigit c = true := fun c hc => hdigits c (List.mem_append_left _ hc)
    have hes : ∀ c ∈ es, isDigit c = true := fun c hc => hdigits c (List.mem_append_right _ hc)
    have hform : Numeral.WellFormed d.body := hbody ▸ Numeral.wellFormed_of_pointed hds hes hne
    refine ⟨hform, ?_⟩
    have hpoint := Numeral.point_notMem hds
    rw [Numeral.WellFormed.value_eq (by rwa [String.toList_ofList]), String.toList_ofList, hbody,
      Numeral.front_append_point hpoint, Numeral.back_append_point hpoint, hpadded, padded,
      ← Numeral.ofDigits_eq, ofDigits_replicate_append, ofDigits_digits, hlength, spread, if_neg hd,
      Int.toNat_of_nonneg (by omega), neg_neg]

/-- A number is written with digits, a point and a minus sign. -/
theorem mem_plain {d : Decimal} {c : Char} (hc : c ∈ d.plain.toList) :
    isDigit c = true ∨ c = '.' ∨ c = '-' := by
  have hbody : c ∈ d.body → isDigit c = true ∨ c = '.' ∨ c = '-' := fun hc =>
    ((body_reads d).1.1 c hc).imp_right .inl
  rw [plain_eq, String.toList_ofList] at hc
  split at hc
  · rcases List.mem_cons.mp hc with rfl | hc
    · exact .inr (.inr rfl)
    · exact hbody hc
  · exact hbody hc

/-! ### One value, one notation -/

theorem negative_eq_of_toRat_eq (ha : a.coefficient ≠ 0) (h : a.toRat = b.toRat) :
    a.negative = b.negative := by
  have hb : b.coefficient ≠ 0 := fun hzero => ha (by
    rw [← toRat_eq_zero_iff, h, toRat_eq_zero_iff.mpr hzero])
  have hsign : signum a.negative = signum b.negative := by
    rw [← sign_toRat ha, ← sign_toRat hb, h]
  cases ha : a.negative <;> cases hb : b.negative <;> simp [ha, hb, signum] at hsign ⊢ <;>
    norm_num at hsign

/-- Of two numbers of one value the one with the lesser exponent has the other's digits, and zeros behind. -/
theorem coefficient_eq_of_toRat_eq (h : a.toRat = b.toRat) (hle : a.exponent ≤ b.exponent) :
    a.coefficient = b.coefficient * tenPow (b.exponent - a.exponent).toNat := by
  have ha := abs_toRat_div hle
  have hb := abs_toRat_div (le_refl b.exponent)
  have hten : (10 : ℚ) ^ (b.exponent - a.exponent).toNat ≠ 0 := by positivity
  rw [h, hb, sub_self, Int.toNat_zero, pow_zero, div_one, eq_div_iff hten, ← tenPow_eq] at ha
  exact_mod_cast ha.symm

theorem eq_of_exponent_eq (ha : a.coefficient ≠ 0) (h : a.toRat = b.toRat)
    (he : a.exponent = b.exponent) : a = b := by
  have hc := coefficient_eq_of_toRat_eq h he.le
  have hn := negative_eq_of_toRat_eq ha h
  rw [he, sub_self, Int.toNat_zero, tenPow_zero, Nat.mul_one] at hc
  cases a
  cases b
  simp_all

/-- Whole numbers of one value and sign are written alike. -/
theorem plain_eq_of_toRat_eq (ha : 0 ≤ a.exponent) (hb : 0 ≤ b.exponent)
    (hn : a.negative = b.negative) (h : a.toRat = b.toRat) : a.plain = b.plain := by
  have hspread : a.spread.coefficient = b.spread.coefficient := by
    have hc := coefficient_eq_of_toRat_eq (a := a.spread) (b := b.spread) (by simpa using h)
      (by simp [spread, ha, hb])
    simpa [spread, ha, hb, tenPow_zero] using hc
  have hbody : a.body = b.body := by
    rw [body_of_nonneg ha, body_of_nonneg hb]
    simpa [spread, ha, hb] using congrArg digits hspread
  rw [plain_eq, plain_eq, hbody, hn]

/-- **Read back, a number rounds to one written alike.** -/
theorem round_spread (h : ctx.Fits d) :
    ∃ r, ctx.round d.spread = .ok r ∧ r.plain = d.plain ∧ r.toRat = d.toRat := by
  by_cases hd : 0 ≤ d.exponent
  · have hdelivered := toRat_round ctx d.spread
    rw [toRat_spread, h.delivered] at hdelivered
    cases hr : ctx.round d.spread with
    | error s => rw [hr] at hdelivered; cases hdelivered
    | ok r =>
      rw [hr] at hdelivered
      have hvalue : r.toRat = d.toRat := Except.ok.inj hdelivered
      have hexponent : 0 ≤ r.exponent := by
        have hspread : d.spread.exponent = 0 := by rw [spread, if_pos hd]
        exact hspread.symm.trans_le (exponent_le_of_round hr (by rw [hspread]; decide))
      have hsign : r.negative = d.negative := by rw [negative_of_round hr, negative_spread]
      exact ⟨r, rfl, plain_eq_of_toRat_eq hexponent hd hsign hvalue, hvalue⟩
  · refine ⟨d, ?_, rfl, rfl⟩
    rw [spread, if_neg hd]
    exact h.round_eq

/-! ### Display -/

/-- Without trailing zeros behind the point, and zero without a sign. -/
def bare (d : Decimal) : Decimal := if d.isZero then ⟨false, 0, 0⟩ else d.reduceTo 0

theorem display_eq (ctx : Context) (d : Decimal) :
    d.display ctx = (fun r => r.bare.plain) <$> ctx.plus d := by
  rw [display, map_eq_pure_bind]
  congr 1
  funext r
  rw [bare]
  split <;> rfl

@[simp] theorem toRat_bare (d : Decimal) : d.bare.toRat = d.toRat := by
  rw [bare]
  split
  · next h => rw [toRat_eq_zero_iff_isZero.mpr h, toRat_eq_zero_iff]
  · exact toRat_reduceTo 0 d

theorem reduceTo_digits (ideal : ℤ) (d : Decimal) : (d.reduceTo ideal).coefficient ≤ d.coefficient ∧
    d.exponent ≤ (d.reduceTo ideal).exponent := by
  have hmul := stripZeros_fst_mul (ideal - d.exponent).toNat d.coefficient
  refine ⟨?_, by simp [reduceTo]⟩
  calc (d.reduceTo ideal).coefficient
      ≤ (d.reduceTo ideal).coefficient * tenPow (stripZeros (ideal - d.exponent).toNat d.coefficient).2 :=
        Nat.le_mul_of_pos_right _ (tenPow_pos _)
    _ = d.coefficient := hmul

/-- Trailing zeros can be left out wherever they stand. -/
theorem final_bare (h : ctx.Fits d) : ctx.Final d.bare := by
  rw [bare]
  split
  · refine ⟨⟨tenPow_pos _, ctx.least_neg.le, ?_⟩, nofun⟩
    rw [adjusted_eq_exponent rfl]
    decide
  · next hzero =>
    have hd : d.coefficient ≠ 0 := by simpa [isZero] using hzero
    obtain ⟨hdigits, hexponent⟩ := reduceTo_digits 0 d
    have hvalue := (toRat_reduceTo 0 d).symm
    refine ⟨h.of_toRat_eq hd hvalue hdigits hexponent, fun _ hc => hd ?_⟩
    rw [← toRat_eq_zero_iff, hvalue, toRat_eq_zero_iff.mpr hc]

/-- No zero ends the digits behind the point. -/
def Reduced (d : Decimal) : Prop := d.exponent ≤ 0 ∧ (d.exponent < 0 → d.coefficient % 10 ≠ 0)

theorem reduced_spread_reduceTo (hd : d.coefficient ≠ 0) : (d.reduceTo 0).spread.Reduced := by
  refine ⟨exponent_spread_le _, fun hneg => ?_⟩
  have hexponent : (d.reduceTo 0).exponent = d.exponent + (stripZeros (0 - d.exponent).toNat d.coefficient).2 := rfl
  rw [spread] at hneg ⊢
  split at hneg
  · exact absurd hneg (lt_irrefl 0)
  · next hlt =>
    rw [if_neg hlt]
    exact stripZeros_fst_mod (Nat.pos_of_ne_zero hd) (by omega)

theorem coefficient_spread_reduceTo (hd : d.coefficient ≠ 0) :
    (d.reduceTo 0).spread.coefficient ≠ 0 := by
  rwa [Ne, ← toRat_eq_zero_iff, toRat_spread, toRat_reduceTo, toRat_eq_zero_iff]

/-- A coarser number of the same value would make the last digit a zero. -/
theorem exponent_le_of_reduced (ha : a.Reduced) (h : a.toRat = b.toRat) (hb : b.exponent ≤ 0) :
    b.exponent ≤ a.exponent := by
  by_contra! hlt
  have hc := coefficient_eq_of_toRat_eq h hlt.le
  obtain ⟨k, hk⟩ : ∃ k, (b.exponent - a.exponent).toNat = k + 1 :=
    ⟨(b.exponent - a.exponent).toNat - 1, by omega⟩
  rw [hk, tenPow_succ, ← Nat.mul_assoc] at hc
  exact ha.2 (hlt.trans_le hb) (by rw [hc, Nat.mul_mod_left])

theorem eq_of_reduced (ha : a.Reduced) (hb : b.Reduced) (hc : a.coefficient ≠ 0)
    (h : a.toRat = b.toRat) : a = b :=
  eq_of_exponent_eq hc h
    (le_antisymm (exponent_le_of_reduced hb h.symm ha.1) (exponent_le_of_reduced ha h hb.1))

theorem plain_bare_eq_of_toRat_eq (h : a.toRat = b.toRat) : a.bare.plain = b.bare.plain := by
  have hzero : a.isZero = true ↔ b.isZero = true := by
    rw [← toRat_eq_zero_iff_isZero, ← toRat_eq_zero_iff_isZero, h]
  by_cases ha : a.isZero = true
  · rw [bare, bare, if_pos ha, if_pos (hzero.mp ha)]
  · have hb := mt hzero.mpr ha
    have hac : a.coefficient ≠ 0 := by simpa [isZero] using ha
    have hbc : b.coefficient ≠ 0 := by simpa [isZero] using hb
    have hvalue : (a.reduceTo 0).spread.toRat = (b.reduceTo 0).spread.toRat := by
      simpa only [toRat_spread, toRat_reduceTo] using h
    rw [bare, bare, if_neg ha, if_neg hb, ← plain_spread, ← plain_spread (b.reduceTo 0),
      eq_of_reduced (reduced_spread_reduceTo hac) (reduced_spread_reduceTo hbc)
        (coefficient_spread_reduceTo hac) hvalue]

/-- A display overflows, or shows a number of the rounded value. -/
theorem display_cases (ctx : Context) (d : Decimal) :
    d.display ctx = .error .overflow ∧ ctx.TooGreat d.toRat ∨
      ∃ r : Decimal, d.display ctx = .ok r.bare.plain ∧ r.toRat = ctx.rounded d.toRat ∧
        ¬ ctx.TooGreat d.toRat := by
  rw [display_eq]
  obtain ⟨hplus, hgreat⟩ | ⟨r, hplus, hr, hgreat⟩ := delivered_cases (toRat_plus ctx d)
  · exact .inl ⟨by rw [hplus]; rfl, hgreat⟩
  · exact .inr ⟨r, by rw [hplus]; rfl, hr, hgreat⟩

/-- **What a reader sees depends on the value only.** -/
theorem display_eq_of_toRat_eq (ctx : Context) (h : a.toRat = b.toRat) :
    a.display ctx = b.display ctx := by
  have hb := display_cases ctx b
  rw [← h] at hb
  obtain ⟨ha, hgreat⟩ | ⟨r, ha, hr, hgreat⟩ := display_cases ctx a
  · obtain ⟨hb, -⟩ | ⟨-, -, -, hnot⟩ := hb
    · rw [ha, hb]
    · exact absurd hgreat hnot
  · obtain ⟨-, hgreat'⟩ | ⟨r', hb, hr', -⟩ := hb
    · exact absurd hgreat' hgreat
    · rw [ha, hb, plain_bare_eq_of_toRat_eq (hr.trans hr'.symm)]

end Decimal

end Reckoner
