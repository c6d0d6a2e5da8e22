import Reckoner.Proofs.Calculator.Written

/-!
# Calculator — a group can be replaced by its value

A group comes to the same number, wherever it stands, as the numeral of the value that its text has by itself (`resultOf_group`), if that value is not negative and two conditions are met.

* The context holds the numerals of the text.  The value by itself is rounded at the end, and a group is not; what was rounded before is not changed by that, and neither is a numeral that the context holds.
* The text is self-contained, or nothing in front of the group puts a number on the stack.  A percent sign that finds its operand alone on the stack stands for itself, and takes part of the value below if there is one.

Neither condition can be left out: `not_replaceable`.
-/

namespace Reckoner

open Decimal (Context Signal)
open Evaluation (Alike SameValue run ok_bind mapError_ok mapError_eq_ok_iff bind_eq_ok_iff)
open Expression (signs)
open Rational (HasDigits)

/-! ### Numbers a context holds -/

/-- `x` has no more digits than the context keeps, and none below its least exponent. -/
def Decimal.Context.Holds (ctx : Context) (x : ℚ) : Prop :=
  ∃ m e : ℤ, |m| < 10 ^ ctx.precision ∧ ctx.least ≤ e ∧ x = m * 10 ^ e

theorem Decimal.toRat_eq_digits {d : Decimal} {p : ℕ} (h : d.coefficient < 10 ^ p) :
    ∃ m : ℤ, |m| < 10 ^ p ∧ d.toRat = m * 10 ^ d.exponent := by
  have h : (d.coefficient : ℤ) < 10 ^ p := by exact_mod_cast h
  refine ⟨if d.negative then -d.coefficient else d.coefficient, ?_, ?_⟩
  · split <;> simpa
  · rw [Decimal.toRat, Decimal.signum]
    split <;> simp

theorem Decimal.hasDigits_toRat {d : Decimal} {p : ℕ} (h : d.coefficient < 10 ^ p) :
    HasDigits p d.toRat := by
  obtain ⟨m, hm, hd⟩ := Decimal.toRat_eq_digits h
  exact ⟨m, d.exponent, hm, hd⟩

theorem Decimal.holds_toRat {ctx : Context} {d : Decimal} (h : d.coefficient < 10 ^ ctx.precision)
    (he : ctx.least ≤ d.exponent) : ctx.Holds d.toRat := by
  obtain ⟨m, hm, hd⟩ := Decimal.toRat_eq_digits h
  exact ⟨m, d.exponent, hm, he, hd⟩

theorem Decimal.Context.Holds.rounded {ctx : Context} {x : ℚ} (h : ctx.Holds x) :
    ctx.rounded x = x := by
  rcases eq_or_ne x 0 with rfl | hne
  · exact Decimal.rounded_zero ctx
  obtain ⟨m, e, hm, he, rfl⟩ := h
  have hlog := Rational.log_lt_of_digits hm hne
  exact Rational.nearest_mul_zpow (max_le (by omega) he) m

namespace Calculator

variable {ctx : Context} {pre t post : String} {ts rpn front back : List Token} {v : Decimal}

/-- The end of an evaluation does not change a number the context holds. -/
theorem toRat_of_plus {x : Decimal} (hx : ctx.rounded x.toRat = x.toRat) (h : ctx.plus x = .ok v) :
    v.toRat = x.toRat := by
  have hdelivered := Decimal.toRat_plus ctx x
  rw [h] at hdelivered
  rw [← hx]
  exact (Decimal.delivered_eq_ok_iff.mp hdelivered.symm).2.symm

/-- What an evaluation leaves on the stack has the value it ends with. -/
theorem run_of_evaluate (hrpn : Token.toPostfix ts = .ok rpn) (hv : evaluate ctx rpn = .ok v)
    (hts : ∀ n d, .num n ∈ ts → Numeral.value n.text = .ok d → ctx.Holds d.toRat) :
    ∃ x, run ctx [] rpn = .ok [x] ∧ SameValue x v := by
  obtain ⟨x, hrun, hplus⟩ := evaluate_eq_ok_iff.mp hv
  refine ⟨x, hrun, (toRat_of_plus ?_ hplus).symm⟩
  rcases Evaluation.run_mem hrun List.mem_cons_self with hx | ⟨n, hn, hx⟩ | ⟨y, hy⟩
  · cases hx
  · rcases Token.isNumber_of_toPostfixFrom hrpn hn rfl with hn | hzero
    · exact (hts n x hn hx).rounded
    · cases hzero
      have hvalue : Numeral.value "0" = .ok (.ofNat 0) := by decide
      rw [hvalue] at hx
      cases hx
      simp
  · exact (Decimal.fits_of_round hy).rounded

/-! ### In the middle of an evaluation -/

/-- Tokens that put the same value on the stack can replace one another. -/
theorem alike_evaluate {rpn' : List Token} (h : ∀ stack, run ctx [] front = .ok stack →
      ∃ x y, run ctx stack rpn = .ok (x :: stack) ∧ run ctx stack rpn' = .ok (y :: stack) ∧
        SameValue x y) (back : List Token) :
    Alike SameValue (evaluate ctx (front ++ (rpn ++ back))) (evaluate ctx (front ++ (rpn' ++ back))) := by
  simp only [evaluate, Evaluation.run_append, bind_assoc]
  cases hfront : run ctx [] front with
  | error e => exact .error e
  | ok stack =>
    obtain ⟨x, y, hx, hy, hxy⟩ := h stack hfront
    have hstack : List.Forall₂ SameValue (x :: stack) (y :: stack) :=
      .cons hxy (List.forall₂_same.mpr fun _ _ => rfl)
    simp only [ok_bind, hx, hy]
    exact (Evaluation.alike_run back hstack).bind fun _ _ => Evaluation.alike_result

/-- What is left by a self-contained text, or by a text with nothing below. -/
theorem run_on_stack {x : Decimal} (hrun : run ctx [] rpn = .ok [x])
    (halone : Token.selfContained 0 rpn = true ∨ ∀ u ∈ front, u.isNumber = false)
    {stack : List Decimal} (hfront : run ctx [] front = .ok stack) :
    run ctx stack rpn = .ok (x :: stack) := by
  rcases halone with hself | hnumberless
  · have hself : Token.selfContained ([] : List Decimal).length rpn = true := hself
    exact Evaluation.run_append_stack hself hrun stack
  · rcases @Evaluation.run_numberless ctx front hnumberless with rfl | ⟨m, hm⟩
    · cases hfront
      exact hrun
    · rw [hm] at hfront
      cases hfront

/-! ### In the middle of a text -/

/-- The number a text comes to, or what a caller sees of the failure. -/
def resultOf (ctx : Context) (text : String) : Except (Mistake.Kind ⊕ Signal) ℚ :=
  Decimal.toRat <$> (valueOf ctx text).mapError Failure.kind

/-- A group in a text is a group of tokens. -/
theorem valueOfSigns_group (ctx : Context) (pre post : String) {t : String} (ht : Token.scan t = .ok ts) :
    valueOfSigns ctx (signs (pre ++ "(" ++ t ++ ")" ++ post)) = (do
      let ps ← (Token.ofSigns (signs pre)).mapError .inl
      let qs ← (Token.ofSigns (signs post)).mapError .inl
      (valueOfTokens ctx (ps ++ .lparen :: (ts ++ .rparen :: qs))).mapError Failure.kind) := by
  have hsigns : signs (pre ++ "(" ++ t ++ ")" ++ post)
      = signs pre ++ '(' :: (signs t ++ ')' :: signs post) := by
    simp
  rw [hsigns, valueOfSigns, Token.ofSigns_group, Token.scan_eq_ok_iff.mp ht]
  cases Token.ofSigns (signs pre) with
  | error k => rfl
  | ok ps => cases Token.ofSigns (signs post) <;> rfl

/-- **A group can be replaced by its value.** -/
theorem resultOf_group (ht : Token.scan t = .ok ts) (hrpn : Token.toPostfix ts = .ok rpn)
    (hv : evaluate ctx rpn = .ok v) (hnonneg : 0 ≤ v.toRat)
    (hts : ∀ n d, .num n ∈ ts → Numeral.value n.text = .ok d → ctx.Holds d.toRat)
    (halone : Token.selfContained 0 rpn = true ∨
      ∀ ps, Token.scan pre = .ok ps → Token.Numberless .opening ps) :
    resultOf ctx (pre ++ "(" ++ t ++ ")" ++ post)
      = resultOf ctx (pre ++ "(" ++ v.plain ++ ")" ++ post) := by
  have hsign := (final_of_evaluate hv).negative_eq_false hnonneg
  obtain ⟨x, hrun, hx⟩ := run_of_evaluate hrpn hv hts
  have hnrpn : Token.toPostfix v.operand = .ok [.number (.ofList v.body)] := by
    rw [Decimal.operand_of_nonneg hsign]
    rfl
  rw [resultOf, resultOf, valueOf_kind, valueOf_kind, valueOfSigns_group ctx pre post ht,
    valueOfSigns_group ctx pre post (Decimal.scan_plain v)]
  cases hps : Token.ofSigns (signs pre) with
  | error k => rfl
  | ok ps =>
    cases Token.ofSigns (signs post) with
    | error k => rfl
    | ok qs =>
      refine Alike.iff_map_eq.mp ?_
      refine Alike.mapError ?_ _
      rcases Token.toPostfix_around ps qs with ⟨m, hm⟩ | ⟨front, back, hback, hfront⟩
      · rw [valueOfTokens, valueOfTokens, hm _ _ hrpn, hm _ _ hnrpn]
        exact .error _
      · rw [valueOfTokens, valueOfTokens, hback _ _ hrpn, hback _ _ hnrpn]
        refine alike_evaluate (fun stack hstack => ⟨x, v.spread, ?_, ?_, ?_⟩) back
        · refine run_on_stack hrun (halone.imp_right fun h => ?_) hstack
          exact hfront (h ps (Token.scan_eq_ok_iff.mpr hps))
        · rw [Evaluation.run_singleton, Evaluation.step_number (Decimal.value_body hsign)]
        · rw [SameValue, Decimal.toRat_spread]
          exact hx

/-- Twice an amount raised by a tenth, less one. -/
theorem resultOf_group_raised :
    let ctx : Context := { precision := 4 }
    let ts : List Token := [.number "200", .op .add, .number "10", .percent none]
    let rpn : List Token := [.number "200", .number "10", .percent (some .add), .op .add]
    Token.scan "200+10%" = .ok ts ∧ Token.toPostfix ts = .ok rpn ∧
      evaluate ctx rpn = .ok ⟨false, 2200, -1⟩ ∧ Token.selfContained 0 rpn = true ∧
      resultOf ctx ("2×" ++ "(" ++ "200+10%" ++ ")" ++ "-1")
        = resultOf ctx ("2×" ++ "(" ++ Decimal.plain ⟨false, 2200, -1⟩ ++ ")" ++ "-1") := by
  intro ctx ts rpn
  have hscan : Token.scan "200+10%" = .ok ts := by decide +kernel
  have hrpn : Token.toPostfix ts = .ok rpn := by decide +kernel
  have hvalue : evaluate ctx rpn = .ok ⟨false, 2200, -1⟩ := by decide +kernel
  have hself : Token.selfContained 0 rpn = true := by decide +kernel
  have hnumerals : ∀ n d, .num n ∈ ts → Numeral.value n.text = .ok d → ctx.Holds d.toRat := by
    intro n d hn hd
    have h200 : Numeral.value "200" = .ok ⟨false, 200, 0⟩ := by decide
    have h10 : Numeral.value "10" = .ok ⟨false, 10, 0⟩ := by decide
    simp only [ts, Token.number, List.mem_cons, Token.num.injEq, List.not_mem_nil, or_false,
      reduceCtorEq, false_or] at hn
    rcases hn with rfl | rfl
    · rw [h200] at hd
      cases hd
      exact Decimal.holds_toRat (by decide) (by decide)
    · rw [h10] at hd
      cases hd
      exact Decimal.holds_toRat (by decide) (by decide)
  have hnonneg : 0 ≤ Decimal.toRat ⟨false, 2200, -1⟩ := by simp [Decimal.toRat, Decimal.signum]
  exact ⟨hscan, hrpn, hvalue, hself,
    resultOf_group hscan hrpn hvalue hnonneg hnumerals (.inl hself)⟩

/-! ### What cannot be replaced -/

/-- A group of a text can be replaced by the numeral of its value, if that is not negative and the numerals of the text have no more digits than the context keeps. -/
def Replaceable (ctx : Context) (pre t post : String) : Prop :=
  ∀ ts v, Token.scan t = .ok ts → valueOf ctx t = .ok v → 0 ≤ v.toRat →
    (∀ n d, .num n ∈ ts → Numeral.value n.text = .ok d → HasDigits ctx.precision d.toRat) →
    resultOf ctx (pre ++ "(" ++ t ++ ")" ++ post)
      = resultOf ctx (pre ++ "(" ++ v.plain ++ ")" ++ post)

/-- A product of two numbers is that of their values. -/
theorem resultOf_product {a b : Decimal} (ha : a.negative = false) (hb : b.negative = false) {y : ℚ}
    (h : ctx.delivered (a.toRat * b.toRat) = .ok y) :
    resultOf ctx ("" ++ "(" ++ a.plain ++ ")" ++ ("×" ++ b.plain)) = .ok y := by
  have hmul := Decimal.toRat_mul ctx a.spread b.spread
  rw [Decimal.toRat_spread, Decimal.toRat_spread, h] at hmul
  obtain ⟨r, hr, rfl⟩ := Evaluation.map_eq_ok_iff.mp hmul
  -- what is on the stack at the end was rounded, so it is not changed any more
  have hplus := Decimal.toRat_plus ctx r
  rw [(Decimal.fits_of_round hr).delivered] at hplus
  obtain ⟨r', hr', hvalue⟩ := Evaluation.map_eq_ok_iff.mp hplus
  have hpost : Token.ofSigns (signs ("×" ++ b.plain)) = .ok [.op .mul, .number (.ofList b.body)] := by
    have htimes : signs "×" = [] ++ ['×'] := by decide
    rw [Expression.signs_append, htimes, List.append_assoc, List.singleton_append,
      Token.ofSigns_separator (t := .op .mul) rfl, Token.scan_eq_ok_iff.mp (Decimal.scan_plain b),
      Decimal.operand_of_nonneg hb]
    rfl
  have hevaluate : evaluate ctx [.number (.ofList a.body), .number (.ofList b.body), .op .mul]
      = .ok r' := by
    rw [evaluate, Evaluation.run_cons, Evaluation.step_number (Decimal.value_body ha), ok_bind,
      Evaluation.run_cons, Evaluation.step_number (Decimal.value_body hb), ok_bind,
      Evaluation.run_singleton, Evaluation.step, Evaluation.apply, hr]
    exact mapError_eq_ok_iff.mpr hr'
  rw [resultOf, valueOf_kind, valueOfSigns_group ctx _ _ (Decimal.scan_plain a), hpost,
    Decimal.operand_of_nonneg ha]
  have hempty : Token.ofSigns (signs "") = .ok [] := by decide
  have hvalue' : valueOfTokens ctx ([] ++ .lparen :: ([.number (.ofList a.body)] ++ .rparen ::
      [.op .mul, .number (.ofList b.body)])) = .ok r' := hevaluate
  rw [hempty]
  simp only [mapError_ok, ok_bind, hvalue']
  exact congrArg Except.ok hvalue

/-- Two places below the least exponent. -/
def tiny (ctx : Context) : Decimal := ⟨false, 1, ctx.least - 2⟩

/-- What makes one of it. -/
def huge (ctx : Context) : Decimal := ⟨false, 1, 2 - ctx.least⟩

theorem delivered_tiny (ctx : Context) : ctx.delivered (tiny ctx).toRat = .ok 0 := by
  have hvalue : (tiny ctx).toRat = 10 ^ (ctx.least - 2) := by simp [tiny, Decimal.toRat, Decimal.signum]
  have hpos := Rational.ten_zpow_pos (ctx.least - 2)
  have hlog : Int.log 10 |(10 : ℚ) ^ (ctx.least - 2)| = ctx.least - 2 := by
    rw [abs_of_pos hpos]
    exact_mod_cast Int.log_zpow (R := ℚ) (b := 10) (by norm_num) (ctx.least - 2)
  have hprecision := ctx.precision_pos
  have hrounded : ctx.rounded (tiny ctx).toRat = 0 := by
    rw [hvalue, Context.rounded, hlog, max_eq_right (by omega), Rational.nearest, abs_of_pos hpos,
      ← zpow_sub₀ (by norm_num)]
    norm_num
  rw [Decimal.delivered_eq_ok_iff, Context.TooGreat, hrounded, abs_zero, not_le]
  exact ⟨Decimal.bound_pos, rfl⟩

theorem delivered_one (ctx : Context) : ctx.delivered 1 = .ok 1 := by
  have hfits : ctx.Fits (.ofNat 1) := by
    have hten := Decimal.tenPow_le_tenPow (show 1 ≤ ctx.precision from ctx.precision_pos)
    exact ⟨(show 1 < Decimal.tenPow 1 by decide).trans_le hten, ctx.least_neg.le, by decide⟩
  simpa using hfits.delivered

@[simp] theorem spread_tiny (ctx : Context) : (tiny ctx).spread = tiny ctx := by
  have := ctx.least_neg
  rw [Decimal.spread, if_neg]
  show ¬ 0 ≤ ctx.least - 2
  omega

/-- By itself it is zero. -/
theorem valueOf_tiny (ctx : Context) : ∃ v, valueOf ctx (tiny ctx).plain = .ok v ∧ v.toRat = 0 := by
  have hplus := Decimal.toRat_plus ctx (tiny ctx)
  rw [delivered_tiny] at hplus
  obtain ⟨v, hv, hzero⟩ := Evaluation.map_eq_ok_iff.mp hplus
  refine ⟨v, valueOf_eq_ok_iff.mpr ⟨_, [.number (.ofList (tiny ctx).body)], Decimal.scan_plain _, ?_, ?_⟩,
    hzero⟩
  · rw [Decimal.operand_of_nonneg rfl]
    rfl
  · rw [evaluate, Evaluation.run_singleton, Evaluation.step_number (Decimal.value_body rfl), spread_tiny]
    exact mapError_eq_ok_iff.mpr hv

theorem tiny_mul_huge (ctx : Context) : (tiny ctx).toRat * (huge ctx).toRat = 1 := by
  simp only [tiny, huge, Decimal.toRat, Decimal.signum]
  rw [← neg_sub ctx.least 2, zpow_neg]
  simp [(Rational.ten_zpow_pos (ctx.least - 2)).ne']

/-- A numeral below the least exponent is zero by itself, but counts in a group. -/
theorem not_replaceable_tiny (ctx : Context) :
    ¬ Replaceable ctx "" (tiny ctx).plain ("×" ++ (huge ctx).plain) := by
  intro h
  obtain ⟨v, hv, hzero⟩ := valueOf_tiny ctx
  have hnumerals : ∀ n d, .num n ∈ (tiny ctx).operand → Numeral.value n.text = .ok d →
      HasDigits ctx.precision d.toRat := by
    intro n d hn hd
    rw [Decimal.operand_of_nonneg rfl] at hn
    cases List.mem_singleton.mp hn
    have hd : Numeral.value (.ofList (tiny ctx).body) = .ok d := hd
    rw [Decimal.value_body rfl, spread_tiny] at hd
    cases hd
    exact Decimal.hasDigits_toRat (Nat.one_lt_pow ctx.precision_pos.ne' (by decide))
  have heq := h _ v (Decimal.scan_plain _) hv hzero.ge hnumerals
  have hone : ctx.delivered ((tiny ctx).toRat * (huge ctx).toRat) = .ok 1 := by
    rw [tiny_mul_huge, delivered_one]
  have hnone : ctx.delivered (v.toRat * (huge ctx).toRat) = .ok 0 := by
    rw [hzero, zero_mul, Decimal.delivered_eq_ok_iff]
    exact ⟨Decimal.not_tooGreat_zero ctx, Decimal.rounded_zero ctx⟩
  rw [resultOf_product rfl rfl hone,
    resultOf_product ((final_of_valueOf hv).negative_eq_false hzero.ge) rfl hnone] at heq
  exact absurd (Except.ok.inj heq) one_ne_zero

/-- **Neither condition can be left out.**  A percentage alone in a group takes part of the value below the group; and a numeral below the least exponent counts in a group, but not by itself. -/
theorem not_replaceable : ¬ Replaceable { precision := 80 } "1+" "5%" "" ∧
    ¬ Replaceable { precision := 80 } "" (tiny { precision := 80 }).plain
      ("×" ++ (huge { precision := 80 }).plain) := by
  refine ⟨fun h => ?_, not_replaceable_tiny _⟩
  have hscan : Token.scan "5%" = .ok [.number "5", .percent none] := by decide +kernel
  have hvalue : valueOf { precision := 80 } "5%" = .ok ⟨false, 5, -2⟩ := by decide +kernel
  have hgroup : valueOf { precision := 80 } ("1+" ++ "(" ++ "5%" ++ ")" ++ "")
      = .error (.mistake .operandMissing) := by decide +kernel
  have hnumeral : valueOf { precision := 80 } ("1+" ++ "(" ++ Decimal.plain ⟨false, 5, -2⟩ ++ ")" ++ "")
      = .ok ⟨false, 105, -2⟩ := by decide +kernel
  have hnumerals : ∀ n d, .num n ∈ [Token.number "5", .percent none] → Numeral.value n.text = .ok d →
      HasDigits 80 d.toRat := by
    intro n d hn hd
    have hfive : Numeral.value "5" = .ok (.ofNat 5) := by decide
    obtain rfl : n = { text := "5" } := by simpa [Token.number] using hn
    rw [hfive] at hd
    cases hd
    exact Decimal.hasDigits_toRat (by decide)
  have heq := h _ _ hscan hvalue (by simp [Decimal.toRat, Decimal.signum]) hnumerals
  rw [resultOf, resultOf, hgroup, hnumeral] at heq
  cases heq

end Calculator

end Reckoner
