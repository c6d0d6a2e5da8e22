import Reckoner.Proofs.Calculator
import Reckoner.Proofs.Evaluation
import Reckoner.Service

/-!
# Overflow — when a calculation has no answer

A text overflows if a result on the way to its value, or the value rounded for display, is too great (`Overflows`).  Nothing else keeps a calculator from answering: by `answered_unless_overflows` all three ways of asking, and the addresses of the service behind which they stand, answer every text that does not overflow, and signal an overflow for every text that does.

Some texts of less than 1000 characters do overflow.  A number that no operator takes waits on the stack, so a percentage behind it can multiply the value in front of it by itself (`run_square`); repeated often enough this takes a number of twenty digits out of range (`runaway_overflows`).
-/

namespace Reckoner

open Decimal (Context Signal toRat bound)
open Evaluation (ok_bind bind_eq_error_iff map_eq_error_iff mapError_eq_ok_iff mapError_eq_error_iff)

namespace Calculator

/-- A result on the way to the value of the text is too great, or the value rounded for display is. -/
def Overflows (c : Calculator) (text : String) : Prop :=
  (∃ ts rpn, Token.scan text = .ok ts ∧ Token.toPostfix ts = .ok rpn ∧
    (Evaluation.Exceeds c.context [] rpn ∨
      ∃ v, Evaluation.run c.context [] rpn = .ok [v] ∧ c.context.TooGreat v.toRat)) ∨
  ∃ v ctx, valueOf c.context text = .ok v ∧ c.settings.display = .ok ctx ∧ ctx.TooGreat v.toRat

variable {c : Calculator} {text : String}

theorem valueOf_eq_signal_iff (ctx : Context) (text : String) (s : Signal) :
    valueOf ctx text = .error (.signal s) ↔ s = .overflow ∧
      ∃ ts rpn, Token.scan text = .ok ts ∧ Token.toPostfix ts = .ok rpn ∧
        (Evaluation.Exceeds ctx [] rpn ∨
          ∃ v, Evaluation.run ctx [] rpn = .ok [v] ∧ ctx.TooGreat v.toRat) := by
  simp only [valueOf, bind_eq_error_iff, mapError_eq_error_iff, mapError_eq_ok_iff,
    Evaluation.evaluate_eq_signal_iff, reduceCtorEq, and_false, exists_false, false_or]
  constructor
  · rintro ⟨ts, hts, rpn, hrpn, rfl, hgreat⟩
    exact ⟨rfl, ts, rpn, hts, hrpn, hgreat⟩
  · rintro ⟨rfl, ts, rpn, hts, hrpn, hgreat⟩
    exact ⟨ts, hts, rpn, hrpn, rfl, hgreat⟩

theorem shown_eq_error_iff {v : Decimal} {ctx : Context} (hd : c.settings.display = .ok ctx)
    {s : Signal} : c.shown v = .error s ↔ s = .overflow ∧ ctx.TooGreat v.toRat := by
  rw [shown, hd, ok_bind, Decimal.display, bind_eq_error_iff,
    Decimal.eq_error_iff_of_delivered (Decimal.toRat_plus ctx v), or_iff_left]
  rintro ⟨r, -, h⟩
  cases h

/-- A display that is computed overflows exactly if its text does, and ends in no other signal. -/
theorem compute_eq_signal_iff {ctx : Context} (hd : c.settings.display = .ok ctx) {s : Signal} :
    c.compute text = .error (.signal s) ↔ s = .overflow ∧ c.Overflows text := by
  rw [compute_eq, bind_eq_error_iff, Overflows, and_or_left, ← valueOf_eq_signal_iff]
  refine or_congr_right ?_
  simp only [mapError_eq_error_iff, shown_eq_error_iff hd, Failure.signal.injEq]
  constructor
  · rintro ⟨v, hv, _, ⟨rfl, hgreat⟩, rfl⟩
    exact ⟨rfl, v, ctx, hv, hd, hgreat⟩
  · rintro ⟨rfl, v, ctx', hv, hd', hgreat⟩
    obtain rfl := Except.ok.inj (hd.symm.trans hd')
    exact ⟨v, hv, _, ⟨rfl, hgreat⟩, rfl⟩

/-! ### A text that overflows -/

section Growth

open Evaluation (run run_cons run_append step computed)

variable {ctx : Context}

theorem least_le_neg_two (ctx : Context) : ctx.least ≤ -2 := by
  have := ctx.precision_pos
  rw [Context.least, Decimal.minExponent]
  omega

/-- What delivers a number that reaches a power of ten overflows or reaches it too. -/
theorem overflow_or_le {r : Except Signal Decimal} {x : ℚ} {j : ℤ}
    (h : toRat <$> r = ctx.delivered x) (hj : -2 ≤ j) (hx : 10 ^ j ≤ x) :
    computed r = .error (.signal .overflow) ∨
      ∃ d, computed r = .ok d ∧ 10 ^ j ≤ d.toRat ∧ d.toRat < bound := by
  obtain ⟨rfl, -⟩ | ⟨d, rfl, hd, hgreat⟩ := Decimal.delivered_cases h
  · exact .inl rfl
  · refine .inr ⟨d, rfl, ?_, ?_⟩
    · rw [hd]
      exact Decimal.le_rounded ((least_le_neg_two ctx).trans hj) hx
    · rw [hd]
      exact (le_abs_self _).trans_lt (not_le.mp hgreat)

/-- Behind `a b` these leave `a + b · (b · 1%)`. -/
def square : List Token := [.number "1", .percent (some .add), .op .mul, .op .add]

/-- The run of `square`, operation by operation. -/
theorem run_square_eq (l a : Decimal) (below : List Decimal) :
    run ctx (l :: a :: below) square = (do
      let fraction ← computed (ctx.div (.ofNat 1) (.ofNat 100))
      let part ← computed (ctx.mul l fraction)
      let product ← computed (ctx.mul l part)
      let sum ← computed (ctx.add a product)
      return sum :: below) := by
  have hnumber : step ctx (l :: a :: below) (.number "1") = .ok (.ofNat 1 :: l :: a :: below) := rfl
  rw [square, run_cons, hnumber]
  simp only [run_cons, step, Evaluation.percentage, Evaluation.apply, ok_bind, bind_assoc,
    bind_map_left]
  cases computed (ctx.div (.ofNat 1) (.ofNat 100)) with
  | error f => rfl
  | ok fraction =>
    cases computed (ctx.mul l fraction) with
    | error f => rfl
    | ok part =>
      cases computed (ctx.mul l part) with
      | error f => rfl
      | ok product => cases computed (ctx.add a product) <;> rfl

/-- A number of more than `k` digits leaves one of about twice as many. -/
theorem run_square (ctx : Context) {l a : Decimal} {below : List Decimal} {k : ℕ}
    (hl : 10 ^ (k + 2 : ℤ) ≤ l.toRat) (ha : 0 ≤ a.toRat) :
    run ctx (l :: a :: below) square = .error (.signal .overflow) ∨
      ∃ l', run ctx (l :: a :: below) square = .ok (l' :: below) ∧
        10 ^ (2 * k + 2 : ℤ) ≤ l'.toRat ∧ l'.toRat < bound := by
  have hpos : 0 < l.toRat := (Rational.ten_zpow_pos _).trans_le hl
  rw [run_square_eq]
  have hdiv := Decimal.toRat_div ctx (.ofNat 1) (.ofNat 100) (by norm_num)
  obtain h | ⟨fraction, h, hfraction, -⟩ := overflow_or_le hdiv le_rfl (by norm_num) <;> rw [h]
  · exact .inl rfl
  have hpart : (10 : ℚ) ^ (k : ℤ) ≤ l.toRat * fraction.toRat := by
    calc (10 : ℚ) ^ (k : ℤ) = 10 ^ (k + 2 : ℤ) * 10 ^ (-2 : ℤ) := by
          rw [← zpow_add₀ (by norm_num)]; congr 1; ring
      _ ≤ l.toRat * fraction.toRat := by gcongr
  obtain h | ⟨part, h, hpart, -⟩ :=
    overflow_or_le (Decimal.toRat_mul ctx l fraction) (by omega) hpart <;> rw [ok_bind, h]
  · exact .inl rfl
  have hproduct : (10 : ℚ) ^ (2 * k + 2 : ℤ) ≤ l.toRat * part.toRat := by
    calc (10 : ℚ) ^ (2 * k + 2 : ℤ) = 10 ^ (k + 2 : ℤ) * 10 ^ (k : ℤ) := by
          rw [← zpow_add₀ (by norm_num)]; congr 1; ring
      _ ≤ l.toRat * part.toRat := by gcongr
  obtain h | ⟨product, h, hproduct, -⟩ :=
    overflow_or_le (Decimal.toRat_mul ctx l part) (by omega) hproduct <;> rw [ok_bind, h]
  · exact .inl rfl
  obtain h | ⟨sum, h, hsum, hbound⟩ := overflow_or_le (Decimal.toRat_add ctx a product)
    (show -2 ≤ (2 * k + 2 : ℤ) by omega) (by linarith) <;> rw [ok_bind, h]
  · exact .inl rfl
  · exact .inr ⟨sum, rfl, hsum, hbound⟩

/-- Repeated, with a number waiting for every repetition, this multiplies the digits by a power of two. -/
theorem run_squares (ctx : Context) (r : ℕ) {l a : Decimal} (below : List Decimal) {k : ℕ}
    (hl : 10 ^ (k + 2 : ℤ) ≤ l.toRat) (hb : l.toRat < bound) (ha : 0 ≤ a.toRat) :
    run ctx (l :: (List.replicate r a ++ below)) (List.replicate r square).flatten
        = .error (.signal .overflow) ∨
      ∃ l', run ctx (l :: (List.replicate r a ++ below)) (List.replicate r square).flatten
        = .ok (l' :: below) ∧ 10 ^ (2 ^ r * k + 2 : ℤ) ≤ l'.toRat ∧ l'.toRat < bound := by
  induction r generalizing l k with
  | zero => exact .inr ⟨l, rfl, by simpa using hl, hb⟩
  | succ r ih =>
    rw [List.replicate_succ, List.replicate_succ, List.flatten_cons, run_append, List.cons_append]
    obtain h | ⟨l', h, hl', hb'⟩ := run_square ctx hl ha <;> rw [h]
    · exact .inl rfl
    -- the digits are doubled first, so the powers of two multiply
    have hrest := ih (k := 2 * k) (by exact_mod_cast hl') hb'
    rw [ok_bind, pow_succ, mul_assoc]
    exact_mod_cast hrest

end Growth

/-- Sixteen times a number waits, then one of twenty digits is squared sixteen times. -/
def runaway : String :=
  "(1)(1)(1)(1)(1)(1)(1)(1)(1)(1)(1)(1)(1)(1)(1)(1)99999999999999999999+1%×+1%×+1%×+1%×+1%×+1%×+1%×+1%×+1%×+1%×+1%×+1%×+1%×+1%×+1%×+1%×"

theorem toPostfix_runaway :
    ∃ ts, Token.scan runaway = .ok ts ∧ Token.toPostfix ts = .ok
      (List.replicate 16 (.number "1") ++ [.number "99999999999999999999"] ++
        (List.replicate 16 square).flatten) := by
  have h : (Token.scan runaway >>= Token.toPostfix) = .ok
      (List.replicate 16 (.number "1") ++ [.number "99999999999999999999"] ++
        (List.replicate 16 square).flatten) := by decide +kernel
  cases hscan : Token.scan runaway with
  | error m => rw [hscan] at h; cases h
  | ok ts => rw [hscan] at h; exact ⟨ts, rfl, h⟩

/-- The text overflows in every context, however many digits it keeps. -/
theorem runaway_overflows (c : Calculator) : c.Overflows runaway := by
  obtain ⟨ts, hscan, hrpn⟩ := toPostfix_runaway
  refine .inl ⟨ts, _, hscan, hrpn, .inl (Evaluation.run_eq_signal_iff (s := .overflow).mp ?_).2⟩
  have hstart : Evaluation.run c.context []
      (List.replicate 16 (.number "1") ++ [.number "99999999999999999999"])
        = .ok (.ofNat 99999999999999999999 :: (List.replicate 16 (.ofNat 1) ++ [])) := rfl
  have hbound : (99999999999999999999 : ℚ) < bound := by
    calc (99999999999999999999 : ℚ) < 10 ^ (20 : ℤ) := by norm_num
      _ ≤ bound := Rational.ten_zpow_le (by decide)
  rw [Evaluation.run_append, hstart, ok_bind]
  obtain h | ⟨l, -, hl, hlb⟩ := run_squares c.context 16 [] (l := .ofNat 99999999999999999999)
    (a := .ofNat 1) (k := 17) (by norm_num) (by simpa using hbound) (by norm_num)
  · exact h
  · -- nothing that great is ever left on the stack
    have hgreat : bound ≤ l.toRat := (Rational.ten_zpow_le (by decide)).trans hl
    exact absurd hlb hgreat.not_gt

/-! ### Every way of asking -/

/-- The computation has a result unless `P`, and then it ends in an overflow. -/
def EndsUnless {α : Type} (P : Prop) (r : Except Signal α) : Prop :=
  (P → r = .error .overflow) ∧ (¬ P → ∃ a, r = .ok a)

theorem EndsUnless.of_iff {α : Type} {P : Prop} {r : Except Signal α}
    (h : ∀ s, r = .error s ↔ s = .overflow ∧ P) : EndsUnless P r := by
  refine ⟨fun hP => (h .overflow).mpr ⟨rfl, hP⟩, fun hP => ?_⟩
  cases r with
  | error s => exact absurd ((h s).mp rfl).2 hP
  | ok a => exact ⟨a, rfl⟩

theorem EndsUnless.map {α β : Type} {P : Prop} {r : Except Signal α} (f : α → β)
    (h : EndsUnless P r) : EndsUnless P (f <$> r) := by
  refine ⟨fun hP => by rw [h.1 hP]; rfl, fun hP => ?_⟩
  obtain ⟨a, rfl⟩ := h.2 hP
  exact ⟨f a, rfl⟩

variable {ctx : Context}

theorem preview_ends (text : String) (hd : c.settings.display = .ok ctx) :
    EndsUnless (c.Overflows text) (c.preview text) :=
  .of_iff fun _ => preview_eq_error_iff.trans (compute_eq_signal_iff hd)

theorem commit_ends (text : String) (hd : c.settings.display = .ok ctx) :
    EndsUnless (c.Overflows text) (c.commit text) :=
  .of_iff fun _ => commit_eq_error_iff.trans (compute_eq_signal_iff hd)

theorem trace_ends (text : String) (hd : c.settings.display = .ok ctx) :
    EndsUnless (c.Overflows text) (c.trace text) :=
  .of_iff fun _ => trace_eq_error_iff.trans (compute_eq_signal_iff hd)

theorem answer_ends (text : String) (hd : c.settings.display = .ok ctx) (a : Service.Answering) :
    EndsUnless (c.Overflows text) (a.answer c text) := by
  cases a with
  | preview =>
    have h := (preview_ends text hd).map
      fun d => Json.object [("expression", .string text), ("display", .string d)]
    rwa [map_eq_pure_bind] at h
  | commit => exact (commit_ends text hd).map _
  | trace => exact (trace_ends text hd).map _

/-- A calculator that could be set up has a context to show results in. -/
theorem display_of_ofSettings {s : Settings} (hc : Setup.ofSettings s = .ok c) :
    ∃ ctx, c.settings.display = .ok ctx := by
  rw [Setup.ofSettings] at hc
  cases hctx : Setup.context s.precision with
  | error e => rw [hctx] at hc; cases hc
  | ok working =>
    rw [hctx] at hc
    cases hc
    have hprecision : s.precision ≤ Decimal.maxPrecision := by
      by_contra hgreat
      have hnot : ¬ (0 < (s.precision : ℤ).toNat ∧ (s.precision : ℤ).toNat ≤ Decimal.maxPrecision) :=
        fun h => hgreat (by simpa using h.2)
      rw [Setup.context, Context.ofInt, dif_neg hnot] at hctx
      split at hctx <;> cases hctx
    have hdigits : 0 < (s.displayDigits : ℤ).toNat ∧
        (s.displayDigits : ℤ).toNat ≤ Decimal.maxPrecision := by
      have h₁ := s.one_le_displayDigits
      have h₂ := s.displayDigits_le_precision
      rw [Int.toNat_natCast]
      omega
    exact ⟨_, dif_pos hdigits⟩

/-- **Overflow is all that can go wrong.**  A calculator that could be set up answers a text by all three ways of asking unless the text overflows, and then all of them end in that signal.  So does the service behind: a record posted to one of its three addresses with an expression that is not too long gets an answer of status 200 unless the expression overflows. -/
theorem answered_unless_overflows {s : Settings} {c : Calculator}
    (hc : Setup.ofSettings s = .ok c) (text : String) :
    EndsUnless (c.Overflows text) (c.preview text) ∧
      EndsUnless (c.Overflows text) (c.commit text) ∧
      EndsUnless (c.Overflows text) (c.trace text) ∧
      ∀ (r : Service.Request) (a : Service.Answering) (fields : List (String × Json)),
        r.method = "POST" → r.path = a.path → r.body = .value (.object fields) →
        Json.lookup fields "expression" = some (.string text) → text.length ≤ Service.longest →
          (c.Overflows text → Service.respond c r = .error .overflow) ∧
          (¬ c.Overflows text → ∃ body, Service.respond c r = .ok ⟨200, body⟩) := by
  obtain ⟨ctx, hd⟩ := display_of_ofSettings hc
  refine ⟨preview_ends text hd, commit_ends text hd, trace_ends text hd, ?_⟩
  intro r a fields hmethod hpath hbody hfield hlength
  have hexpression : Service.expression r.body = .ok text := by
    rw [hbody, Service.expression, hfield]
    exact if_pos hlength
  have hrespond : Service.respond c r = (Service.Response.mk 200 ·) <$> a.answer c text := by
    have hupper : "POST".map Char.toUpper = "POST" := by decide +kernel
    rw [Service.respond, hpath, Service.Address.ofPath?_path]
    simp only [Service.Address.method, hmethod, hupper, hexpression]
    rfl
  obtain ⟨hover, hnot⟩ := answer_ends text hd a
  refine ⟨fun h => by rw [hrespond, hover h]; rfl, fun h => ?_⟩
  obtain ⟨body, hbody⟩ := hnot h
  exact ⟨body, by rw [hrespond, hbody]; rfl⟩

/-- The calculator with its settings left alone fails at `runaway`, in whichever way it is asked. -/
theorem answered_runaway :
    Setup.ofSettings {} = .ok (.ofSettings {}) ∧ runaway.length ≤ Service.longest ∧
      (ofSettings {}).preview runaway = .error .overflow ∧
      (ofSettings {}).commit runaway = .error .overflow ∧
      (ofSettings {}).trace runaway = .error .overflow ∧
      Service.respond (ofSettings {})
        { path := "/evaluate/preview", body := .value (.object [("expression", .string runaway)]) }
          = .error .overflow := by
  have hc : Setup.ofSettings {} = .ok (.ofSettings {}) := rfl
  have hlength : runaway.length ≤ Service.longest := by decide +kernel
  have hover := runaway_overflows (ofSettings {})
  obtain ⟨hpreview, hcommit, htrace, hrespond⟩ := answered_unless_overflows hc runaway
  refine ⟨hc, hlength, hpreview.1 hover, hcommit.1 hover, htrace.1 hover, ?_⟩
  exact (hrespond _ .preview _ rfl rfl rfl rfl hlength).1 hover

end Calculator

end Reckoner
