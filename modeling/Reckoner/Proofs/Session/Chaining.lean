import Reckoner.Proofs.FixedPoint
import Reckoner.Proofs.Session

/-!
# Session — to go on from a result is to operate on it

A line that starts with an operator is read behind the text of the last result.  That text is one operand (`Decimal.scan_plain`), with a minus in front of it or without, and an operator behind an operand sees no difference between the operand and a group (`Token.toPostfix_operand`).  So the line is answered as if the result stood in parentheses, whatever follows the operator, mistakes included: `Reaches.verdict_entered`.
-/

namespace Reckoner

open Decimal (Context)
open Evaluation (ok_bind mapError_ok)
open Expression (signs)

namespace Session

variable {c : Calculator} {calls : List Call} {s : Session} {line r : String}

/-! ### The operator -/

theorem operator_of_mem {ch : Char} (h : ch ∈ "+-*/×÷%".toList) : Text.isBlank ch = false ∧
    ∃ t, (Glyph.ofChar? (Expression.spelling ch)).bind Glyph.token? = some t ∧ t.kind = .op := by
  have hlist : "+-*/×÷%".toList = ['+', '-', '*', '/', '×', '÷', '%'] := by decide
  rw [hlist] at h
  simp only [List.mem_cons, List.not_mem_nil, or_false] at h
  rcases h with rfl | rfl | rfl | rfl | rfl | rfl | rfl
  all_goals exact ⟨by decide, _, rfl, rfl⟩

/-- The signs of a text that goes on from a result. -/
theorem signs_of_continues (h : continues line = true) : ∃ ch cs t, signs line = ch :: cs ∧
    (Glyph.ofChar? ch).bind Glyph.token? = some t ∧ t.kind = .op := by
  rw [continues] at h
  obtain ⟨ch, hhead, hmem⟩ := (Option.any_eq_true _ _).mp h
  obtain ⟨cs, hcs⟩ := List.head?_eq_some_iff.mp hhead
  obtain ⟨hblank, t, ht, hkind⟩ := operator_of_mem (List.contains_iff_mem.mp hmem)
  refine ⟨_, (cs.filter (!Text.isBlank ·)).map Expression.spelling, t, ?_, ht, hkind⟩
  rw [signs, hcs, List.filter_cons_of_pos (by rw [hblank]; rfl), List.map_cons]

/-! ### The operand -/

/-- **In front of an operator a number needs no parentheses.** -/
theorem valueOfSigns_operand (ctx : Context) (d : Decimal) (h : continues line = true) :
    Calculator.valueOfSigns ctx (signs (d.plain ++ line))
      = Calculator.valueOfSigns ctx (signs ("(" ++ d.plain ++ ")" ++ line)) := by
  obtain ⟨ch, cs, t, hsigns, ht, hkind⟩ := signs_of_continues h
  have hplain : Token.ofSigns (signs d.plain) = .ok d.operand :=
    Token.scan_eq_ok_iff.mp (Decimal.scan_plain d)
  have hgroup : signs ("(" ++ d.plain ++ ")" ++ line)
      = [] ++ '(' :: (signs d.plain ++ ')' :: ([] ++ ch :: cs)) := by
    simp [hsigns]
  rw [Expression.signs_append, hsigns, hgroup, Calculator.valueOfSigns, Calculator.valueOfSigns,
    Token.ofSigns_group, Token.ofSigns_separator ht, Token.ofSigns_separator ht, hplain]
  have hempty : Token.ofSigns [] = .ok [] := rfl
  rw [hempty]
  cases Token.ofSigns cs with
  | error k => rfl
  | ok ts =>
    have hoperand : d.operand = [.number (.ofList d.body)] ∨
        d.operand = [.op .sub, .number (.ofList d.body)] := by
      rw [Decimal.operand]
      split
      · exact .inr rfl
      · exact .inl rfl
    have hpostfix := Token.toPostfix_operand hoperand hkind ts
    simp only [mapError_ok, ok_bind, pure, Except.pure, List.nil_append, Calculator.valueOfTokens,
      hpostfix]

/-! ### Chaining -/

/-- A last result is the display of the last line. -/
theorem Reaches.lastResult_of_commit (h : Reaches c calls s) (hr : s.lastResult? = some r) :
    ∃ text o, c.commit text = .ok o ∧ o.isError = false ∧ o.display = r := by
  cases h with
  | fresh => cases hr
  | clear => cases hr
  | @submit _ before _ line o _ h =>
    obtain ⟨hcommit, rfl⟩ := entered_eq_ok_iff.mp h
    rw [lastResult_record] at hr
    exact ⟨_, o, hcommit, hr⟩

/-- It is a number written out. -/
theorem Reaches.lastResult_eq_plain (h : Reaches c calls s) (hr : s.lastResult? = some r) :
    ∃ d, r = Decimal.plain d := by
  obtain ⟨text, o, hcommit, hsuccess, rfl⟩ := h.lastResult_of_commit hr
  obtain ⟨display, hcompute, rfl⟩ := Calculator.commit_eq_ok_iff.mp ⟨hcommit, hsuccess⟩
  obtain ⟨v, hv, hshown⟩ := Calculator.compute_eq_ok_iff.mp hcompute
  obtain ⟨d, -, hd, -⟩ := Calculator.displayed (Calculator.final_of_valueOf hv) hshown
  exact ⟨d, hd.symm⟩

/-- **To go on from a result is to operate on it.**  A line behind the last result is answered like the line behind the result in parentheses. -/
theorem Reaches.verdict_entered (h : Reaches c calls s) (hr : s.lastResult? = some r)
    (hline : continues (Text.trim line) = true) :
    Outcome.verdict <$> (s.entered c line).1
      = Outcome.verdict <$> c.commit ("(" ++ r ++ ")" ++ Text.trim line) := by
  obtain ⟨d, rfl⟩ := h.lastResult_eq_plain hr
  rw [entered_eq, textOf_of_continues hr hline]
  refine Calculator.verdict_commit_congr ?_
  rw [Calculator.displayOfSigns, Calculator.displayOfSigns, valueOfSigns_operand _ d hline]

/-- A percentage of a negative result. -/
theorem Reaches.verdict_entered_percent :
    let c := Calculator.ofSettings {}
    let o : Outcome := { expression := "1-3", display := "-2" }
    let s : Session := { history := [o], lastResult? := some "-2" }
    (∃ calls, Reaches c calls s) ∧ continues (Text.trim " %50×3") = true ∧
      Outcome.verdict <$> (s.entered c " %50×3").1
        = Outcome.verdict <$> c.commit ("(" ++ "-2" ++ ")" ++ Text.trim " %50×3") := by
  intro c o s
  have hs : entered {} c "1-3" = (.ok o, s) := by decide +kernel
  have hreaches := Reaches.fresh.submit hs
  have hline : continues (Text.trim " %50×3") = true := by decide +kernel
  exact ⟨⟨_, hreaches⟩, hline, hreaches.verdict_entered rfl hline⟩

end Session

end Reckoner
