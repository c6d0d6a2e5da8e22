import Reckoner.Proofs.Calculator.Verdict
import Reckoner.Proofs.Decimal.Notation
import Reckoner.Proofs.Stack

/-!
# Calculator — a number as a text

The plain notation of a number is read as one numeral, with a minus in front of it if the number is negative (`scan_plain`).  The value of the notation is the number, written alike, if an evaluation can end with it: `valueOf_plain`.  Every value is such a number (`final_of_valueOf`).
-/

namespace Reckoner

open Decimal (Context Signal isDigit)
open Evaluation (ok_bind mapError_ok mapError_eq_ok_iff bind_eq_ok_iff map_eq_ok_iff)

/-! ### Reading -/

theorem Numeral.not_isBlank_of_isDigit {c : Char} (h : isDigit c = true) : Text.isBlank c = false := by
  obtain ⟨d, hd, -⟩ := Glyph.ofChar?_of_isDigit h
  refine Bool.eq_false_iff.mpr fun hblank => ?_
  rw [Glyph.ofChar?_eq_none_of_isBlank hblank] at hd
  cases hd

theorem Numeral.spelling_of_isDigit {c : Char} (h : isDigit c = true) : Expression.spelling c = c := by
  rw [Expression.spelling, if_neg (by rintro rfl; cases h), if_neg (by rintro rfl; cases h)]

theorem Numeral.negative_value {s : String} {d : Decimal} (h : Numeral.value s = .ok d) :
    d.negative = false := by
  rw [Numeral.value] at h
  split at h
  · cases h; rfl
  · split at h
    · cases h; rfl
    · cases h

theorem Expression.signs_eq_self {s : String}
    (h : ∀ c ∈ s.toList, Text.isBlank c = false ∧ spelling c = c) : signs s = s.toList := by
  have hfilter : s.toList.filter (!Text.isBlank ·) = s.toList :=
    List.filter_eq_self.mpr fun c hc => by rw [(h c hc).1]; rfl
  have hmap : s.toList.map spelling = s.toList.map id :=
    List.map_congr_left fun c hc => (h c hc).2
  rw [signs, hfilter, hmap, List.map_id]

namespace Decimal

/-- The tokens of the plain notation. -/
def operand (d : Decimal) : List Token :=
  if d.negative then [.op .sub, .number (.ofList d.body)] else [.number (.ofList d.body)]

theorem signs_plain (d : Decimal) : Expression.signs d.plain = d.plain.toList := by
  have hbody : ∀ c ∈ d.body, Text.isBlank c = false ∧ Expression.spelling c = c := by
    intro c hc
    rcases (body_reads d).1.1 c hc with h | rfl
    · exact ⟨Numeral.not_isBlank_of_isDigit h, Numeral.spelling_of_isDigit h⟩
    · decide
  refine Expression.signs_eq_self fun c hc => ?_
  rw [plain_eq, String.toList_ofList] at hc
  split at hc
  · rcases List.mem_cons.mp hc with rfl | hc
    · decide
    · exact hbody c hc
  · exact hbody c hc

theorem writes_operand (d : Decimal) : Token.Writes d.plain d.operand := by
  rw [Token.Writes, signs_plain, plain_eq, operand, String.toList_ofList]
  split <;> simp [Token.written, Token.text, Token.number, BinOp.symbol]

theorem legible_operand (d : Decimal) : Token.Legible d.operand := by
  have hform := (body_reads d).1
  have hnumber : (Token.number (.ofList d.body)).Scanned :=
    ⟨by rw [String.toList_ofList]; exact ⟨hform.ne_nil, hform.1⟩, rfl⟩
  rw [operand]
  split
  · refine ⟨fun t ht => ?_, by simp [Token.isNumber, Token.kind]⟩
    rcases List.mem_cons.mp ht with rfl | ht
    · trivial
    · obtain rfl := List.mem_singleton.mp ht
      exact hnumber
  · refine ⟨fun t ht => ?_, List.isChain_singleton _⟩
    obtain rfl := List.mem_singleton.mp ht
    exact hnumber

/-- **The plain notation is one operand.** -/
theorem scan_plain (d : Decimal) : Token.scan d.plain = .ok d.operand :=
  Token.scan_of_writes (writes_operand d) (legible_operand d)

/-! ### Computing -/

variable {ctx : Context} {d : Decimal}

theorem operand_of_nonneg (hd : d.negative = false) : d.operand = [.number (.ofList d.body)] := by
  rw [operand, hd]
  rfl

theorem value_body (hd : d.negative = false) : Numeral.value (.ofList d.body) = .ok d.spread := by
  rw [(body_reads d).2, ← hd, ← negative_spread]

/-- A sum with zero is the number, rounded. -/
theorem add_zero_left (hd : d.coefficient ≠ 0) (he : d.exponent ≤ 0) :
    ctx.add (.ofNat 0) d = ctx.round d := by
  obtain ⟨negative, coefficient, exponent⟩ := d
  have hmin : min (ofNat 0).exponent exponent = exponent := min_eq_right he
  have hzero : (ofNat 0).units exponent = 0 := by simp [units, ofNat]
  have hunits : units ⟨negative, coefficient, exponent⟩ exponent
      = if negative then -(coefficient : ℤ) else coefficient := by
    simp [units, tenPow_zero]
  have hpos : 0 < coefficient := Nat.pos_of_ne_zero hd
  have hnonneg : ¬ (coefficient : ℤ) < 0 := by omega
  simp only [Context.add, hmin, hzero, hunits]
  cases negative <;> simp [hpos, hpos.ne', hnonneg]

/-- Run by itself, the plain notation leaves the number to be rounded. -/
theorem evaluate_operand (h : ctx.Final d) : ∃ rpn, Token.toPostfix d.operand = .ok rpn ∧
    evaluate ctx rpn = Evaluation.computed (ctx.round d.spread) := by
  by_cases hneg : d.negative = true
  · refine ⟨[.number "0", .number (.ofList d.body), .op .sub], by rw [operand, if_pos hneg]; rfl, ?_⟩
    have hcoefficient : d.spread.coefficient ≠ 0 := by
      rw [Ne, ← toRat_eq_zero_iff, toRat_spread, toRat_eq_zero_iff]
      exact h.signed hneg
    -- zero less the number without its sign, rounded, and then rounded once more
    have hsub : ctx.sub (.ofNat 0) { d.spread with negative := false } = ctx.round d.spread := by
      have hspread : neg { d.spread with negative := false } = d.spread := by
        rw [neg, Bool.not_false, ← hneg, ← negative_spread]
      rw [Context.sub, hspread, add_zero_left hcoefficient (exponent_spread_le d)]
    obtain ⟨r, hr, -, hrvalue⟩ := round_spread h.toFits
    have hfinal : ctx.Final r := by
      refine ⟨fits_of_round hr, fun _ hzero => hcoefficient ?_⟩
      rw [← toRat_eq_zero_iff, toRat_spread, ← hrvalue, toRat_eq_zero_iff]
      exact hzero
    have hzero : Numeral.value "0" = .ok (.ofNat 0) := by decide
    rw [evaluate, Evaluation.run_cons, Evaluation.step_number hzero, ok_bind, Evaluation.run_cons,
      Evaluation.step_number (body_reads d).2, ok_bind, Evaluation.run_singleton, Evaluation.step,
      Evaluation.apply, hsub, hr]
    exact congrArg Evaluation.computed hfinal.plus_eq
  · have hneg := Bool.eq_false_iff.mpr hneg
    refine ⟨[.number (.ofList d.body)], by rw [operand_of_nonneg hneg]; rfl, ?_⟩
    rw [evaluate, Evaluation.run_singleton, Evaluation.step_number (value_body hneg)]
    refine congrArg Evaluation.computed (plus_eq_round fun h => ?_)
    rw [negative_spread, hneg] at h
    cases h

end Decimal

namespace Calculator

variable {ctx : Context} {d v : Decimal} {text : String}

/-- **The value of a number written out is the number**, written alike. -/
theorem valueOf_plain (h : ctx.Final d) :
    ∃ r, valueOf ctx d.plain = .ok r ∧ r.plain = d.plain ∧ r.toRat = d.toRat := by
  obtain ⟨rpn, hrpn, hvalue⟩ := Decimal.evaluate_operand h
  obtain ⟨r, hr, hplain, hrvalue⟩ := Decimal.round_spread h.toFits
  refine ⟨r, ?_, hplain, hrvalue⟩
  rw [valueOf, Decimal.scan_plain, mapError_ok, ok_bind, hrpn, mapError_ok, ok_bind, hvalue, hr]
  rfl

theorem evaluate_eq_ok_iff {ts : List Token} :
    evaluate ctx ts = .ok v ↔ ∃ x, Evaluation.run ctx [] ts = .ok [x] ∧ ctx.plus x = .ok v := by
  rw [evaluate, bind_eq_ok_iff]
  constructor
  · rintro ⟨stack, hrun, hresult⟩
    rcases stack with _ | ⟨x, _ | ⟨y, below⟩⟩
    · cases hresult
    · exact ⟨x, hrun, mapError_eq_ok_iff.mp hresult⟩
    · cases hresult
  · rintro ⟨x, hrun, hplus⟩
    exact ⟨[x], hrun, mapError_eq_ok_iff.mpr hplus⟩

/-- **Every value is final.** -/
theorem final_of_evaluate {ts : List Token} (h : evaluate ctx ts = .ok v) : ctx.Final v := by
  obtain ⟨x, hrun, hplus⟩ := evaluate_eq_ok_iff.mp h
  refine Decimal.final_of_plus (fun hneg => ?_) hplus
  rcases Evaluation.run_mem hrun List.mem_cons_self with hx | ⟨n, -, hn⟩ | ⟨y, hy⟩
  · cases hx
  · rw [Numeral.negative_value hn] at hneg
    cases hneg
  · exact Decimal.fits_of_round hy

theorem valueOf_eq_ok_iff : valueOf ctx text = .ok v ↔
    ∃ ts rpn, Token.scan text = .ok ts ∧ Token.toPostfix ts = .ok rpn ∧ evaluate ctx rpn = .ok v := by
  simp only [valueOf, bind_eq_ok_iff, mapError_eq_ok_iff]
  constructor
  · rintro ⟨ts, hts, rpn, hrpn, hv⟩
    exact ⟨ts, rpn, hts, hrpn, hv⟩
  · rintro ⟨ts, rpn, hts, hrpn, hv⟩
    exact ⟨ts, hts, rpn, hrpn, hv⟩

theorem final_of_valueOf (h : valueOf ctx text = .ok v) : ctx.Final v := by
  obtain ⟨ts, rpn, -, -, hv⟩ := valueOf_eq_ok_iff.mp h
  exact final_of_evaluate hv

end Calculator

end Reckoner
