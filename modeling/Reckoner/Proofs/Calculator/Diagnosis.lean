import Reckoner.Proofs.Calculator.Stages

/-!
# Calculator — which mistake is reported

A text may hold several mistakes, and one is reported.  A foreign character is reported before anything else, the first one if there are several; unmatched parentheses come next, and only then what evaluation finds: `compute_cases`.  Both doors that name a mistake agree on it, and both know whether there is one from the text alone as far as characters and parentheses go (`diagnosis`).  A numeral without a value keeps a text from having one, since every numeral comes to be evaluated, but something else may be reported in its place.
-/

namespace Reckoner.Calculator

open Decimal (Signal)
open Expression (Foreign FirstForeign Overclosed Balanced numerals)

variable {c : Calculator} {text : String} {ts rpn : List Token} {m : Mistake}

/-! ### Stages in order -/

/-- **Characters come first, then parentheses, then values.** -/
theorem compute_cases (c : Calculator) (text : String) :
    (∃ front x, FirstForeign text.toList front x ∧
        c.compute text = .error (.mistake (.invalidCharacter x front.length))) ∨
      ((∀ x ∈ text.toList, ¬ Foreign x) ∧ ¬ Balanced text ∧ c.compute text = .error (.mistake
        (if Overclosed text then .unmatchedClosing else .unmatchedOpening))) ∨
      ((∀ x ∈ text.toList, ¬ Foreign x) ∧ Balanced text ∧ ∃ ts rpn, Token.scan text = .ok ts ∧
        Token.toPostfix ts = .ok rpn ∧
        c.compute text = evaluate c.context rpn >>= fun v => (c.shown v).mapError .signal) := by
  cases hscan : Token.scan text with
  | error m =>
    obtain ⟨front, x, hfirst, rfl⟩ := Token.scan_eq_error_iff.mp hscan
    exact .inl ⟨front, x, hfirst, by rw [compute, hscan]; rfl⟩
  | ok ts =>
    have hforeign : ∀ x ∈ text.toList, ¬ Foreign x := Token.exists_scan_iff.mp ⟨ts, hscan⟩
    obtain ⟨hover, hopen, hbalanced⟩ := Token.toPostfix_of_scan hscan
    by_cases hb : Balanced text
    · obtain ⟨rpn, hrpn⟩ := hbalanced hb
      refine .inr (.inr ⟨hforeign, hb, ts, rpn, rfl, hrpn, ?_⟩)
      rw [compute, hscan, Evaluation.mapError_ok, Evaluation.ok_bind, hrpn]
      rfl
    · refine .inr (.inl ⟨hforeign, hb, ?_⟩)
      rw [compute, hscan, Evaluation.mapError_ok, Evaluation.ok_bind]
      split
      · next h => rw [hover h]; rfl
      · next h => rw [hopen h hb]; rfl

/-- A trace keeps the mistake that is computed. -/
theorem mistake?_trace (h : c.compute text = .error (.mistake m)) :
    Trace.mistake? <$> c.trace text = .ok (some m) := by
  have htraced := traced c text
  rw [h] at htraced
  generalize c.trace text = t at htraced ⊢
  cases htraced <;> rfl

theorem errorMessage?_trace (h : c.compute text = .error (.mistake m)) :
    Trace.errorMessage? <$> c.trace text = .ok (some m.message) := by
  obtain ⟨t, ht, hmistake⟩ := Evaluation.map_eq_ok_iff.mp (mistake?_trace h)
  rw [ht, Evaluation.map_ok, Trace.errorMessage?, hmistake]
  rfl

/-! ### Kinds -/

/-- The kinds of mistakes that are found in the evaluation. -/
theorem reported_evaluation {v? : Except Failure Decimal} {f : Decimal → Except Signal String}
    {k : Mistake.Kind} (h : reported (v? >>= fun v => (f v).mapError .signal) = .ok (some k)) :
    ∃ m, v? = .error (.mistake m) ∧ m.kind = k := by
  rcases v? with (m | s) | v
  · exact ⟨m, rfl, Option.some.inj (Except.ok.inj h)⟩
  · cases h
  · rw [Evaluation.ok_bind] at h
    cases hf : f v with
    | error s => rw [hf] at h; cases h
    | ok display => rw [hf] at h; cases h

theorem wellFormed_iff (hscan : Token.scan text = .ok ts) {n : Numeral} (hn : .num n ∈ ts) :
    (∃ d, Numeral.value n.text = .ok d) ↔ Numeral.WellFormed n.text.toList := by
  obtain ⟨⟨hne, hchars⟩, -⟩ := (Token.legible_of_scan hscan).scanned _ hn
  exact Numeral.value_eq_ok_iff hne hchars

theorem reported_eq_invalidCharacter_iff : reported (c.compute text) = .ok (some .invalidCharacter) ↔
    ∃ x ∈ text.toList, Foreign x := by
  obtain ⟨front, x, hfirst, h⟩ | ⟨hforeign, -, h⟩ | ⟨hforeign, -, ts, rpn, -, -, h⟩ := compute_cases c text
  · rw [h, ← Expression.exists_firstForeign_iff]
    exact iff_of_true rfl ⟨front, x, hfirst⟩
  · refine iff_of_false (fun hkind => ?_) fun ⟨x, hx, hf⟩ => hforeign x hx hf
    rw [h] at hkind
    split at hkind <;> cases hkind
  · refine iff_of_false (fun hkind => ?_) fun ⟨x, hx, hf⟩ => hforeign x hx hf
    rw [h] at hkind
    obtain ⟨m, hm, hmkind⟩ := reported_evaluation hkind
    exact (Evaluation.kind_of_evaluate hm).1 hmkind

theorem reported_eq_mismatchedParentheses_iff :
    reported (c.compute text) = .ok (some .mismatchedParentheses) ↔
      (∀ x ∈ text.toList, ¬ Foreign x) ∧ ¬ Balanced text := by
  obtain ⟨front, x, hfirst, h⟩ | ⟨hforeign, hb, h⟩ | ⟨hforeign, hb, ts, rpn, -, -, h⟩ := compute_cases c text
  · obtain ⟨y, hy, hf⟩ := Expression.exists_firstForeign_iff.mp ⟨front, x, hfirst⟩
    refine iff_of_false (fun hkind => ?_) fun h => h.1 y hy hf
    rw [h] at hkind
    cases hkind
  · refine iff_of_true ?_ ⟨hforeign, hb⟩
    rw [h]
    split <;> rfl
  · refine iff_of_false (fun hkind => ?_) fun h => h.2 hb
    rw [h] at hkind
    obtain ⟨m, hm, hmkind⟩ := reported_evaluation hkind
    exact (Evaluation.kind_of_evaluate hm).2 hmkind

/-- A text with a value has one for each of its numerals. -/
theorem wellFormed_of_reported (h : reported (c.compute text) = .ok none) {cs : List Char}
    (hcs : cs ∈ numerals text) : Numeral.WellFormed cs := by
  obtain ⟨front, x, hfirst, h'⟩ | ⟨-, -, h'⟩ | ⟨-, -, ts, rpn, hscan, hrpn, h'⟩ := compute_cases c text
  · rw [h'] at h; cases h
  · rw [h'] at h; cases h
  · obtain ⟨n, hn, rfl⟩ := (Token.mem_numerals_iff hscan).mp hcs
    refine (wellFormed_iff hscan hn).mp ?_
    rw [h'] at h
    cases hvalue : evaluate c.context rpn with
    | error f =>
      rw [hvalue] at h
      rcases f with m | s <;> cases h
    | ok v =>
      obtain ⟨x, hrun, -⟩ := evaluate_eq_ok_iff.mp hvalue
      exact Evaluation.value_of_run hrun (Token.num_mem_toPostfixFrom hrpn hn)

/-- A numeral without a value is reported only if there is one. -/
theorem not_wellFormed_of_reported (h : reported (c.compute text) = .ok (some .invalidNumber)) :
    ∃ cs ∈ numerals text, ¬ Numeral.WellFormed cs := by
  obtain ⟨front, x, hfirst, h'⟩ | ⟨-, -, h'⟩ | ⟨-, -, ts, rpn, hscan, hrpn, h'⟩ := compute_cases c text
  · rw [h'] at h; cases h
  · rw [h'] at h; split at h <;> cases h
  · rw [h'] at h
    obtain ⟨m, hm, hkind⟩ := reported_evaluation h
    rcases Evaluation.evaluate_eq_mistake hm with ⟨n, hn, hv⟩ | hk | hk
    · rcases Token.isNumber_of_toPostfixFrom hrpn hn rfl with hn | hzero
      · refine ⟨_, (Token.mem_numerals_iff hscan).mpr ⟨n, hn, rfl⟩, fun hform => ?_⟩
        obtain ⟨d, hd⟩ := (wellFormed_iff hscan hn).mpr hform
        rw [hd] at hv
        cases hv
      · -- the zero of a negation has a value
        cases hzero
        cases hv
    · rw [hk] at hkind; cases hkind
    · rw [hk] at hkind; cases hkind

/-! ### What is reported -/

/-- **Which mistake is reported.**  Finished or traced, a text reports a foreign character exactly if it holds one, and then the trace names the first and its index; otherwise unmatched parentheses exactly if they do not match, and then the trace names the kind that is too many; otherwise it has a value only if each of its numerals has, and reports a numeral only if one of them has none. -/
theorem diagnosis (c : Calculator) (text : String) :
    (∀ kind? ∈ [Outcome.errorKind? <$> c.commit text, Trace.errorKind? <$> c.trace text],
      (kind? = .ok (some .invalidCharacter) ↔ ∃ x ∈ text.toList, Foreign x) ∧
      (kind? = .ok (some .mismatchedParentheses) ↔
        (∀ x ∈ text.toList, ¬ Foreign x) ∧ ¬ Balanced text) ∧
      (kind? = .ok none → ∀ n ∈ numerals text, Numeral.WellFormed n) ∧
      (kind? = .ok (some .invalidNumber) → ∃ n ∈ numerals text, ¬ Numeral.WellFormed n)) ∧
    (∀ front x, FirstForeign text.toList front x → Trace.errorMessage? <$> c.trace text = .ok (some
      s!"Invalid character {Text.quoted (.singleton x)} at position {front.length}")) ∧
    ((∀ x ∈ text.toList, ¬ Foreign x) → ¬ Balanced text → Trace.errorMessage? <$> c.trace text =
      .ok (some (if Overclosed text then "Unmatched ')'" else "Unmatched '('"))) := by
  refine ⟨fun kind? hkind => ?_, fun front x hfirst => ?_, fun hforeign hb => ?_⟩
  · obtain rfl : kind? = reported (c.compute text) := by
      rcases List.mem_cons.mp hkind with rfl | hkind
      · exact errorKind?_commit c text
      · rw [List.mem_singleton.mp hkind]
        exact errorKind?_trace c text
    exact ⟨reported_eq_invalidCharacter_iff, reported_eq_mismatchedParentheses_iff,
      fun h n => wellFormed_of_reported h, not_wellFormed_of_reported⟩
  · have hcompute : c.compute text = .error (.mistake (.invalidCharacter x front.length)) := by
      rw [compute, Token.scan_eq_error_iff.mpr ⟨front, x, hfirst, rfl⟩]
      rfl
    exact errorMessage?_trace hcompute
  · obtain ⟨front, x, hfirst, -⟩ | ⟨-, -, h⟩ | ⟨-, hb', -⟩ := compute_cases c text
    · obtain ⟨y, hy, hf⟩ := Expression.exists_firstForeign_iff.mp ⟨front, x, hfirst⟩
      exact absurd hf (hforeign y hy)
    · rw [errorMessage?_trace h]
      split <;> rfl
    · exact absurd hb' hb

/-- Of several mistakes the first in that order is reported, wherever it stands. -/
theorem diagnosis_of_several :
    Trace.errorMessage? <$> (ofSettings {}).trace "1..2)+x$(" =
        .ok (some "Invalid character 'x' at position 6") ∧
      Trace.errorMessage? <$> (ofSettings {}).trace "((1..2)))(" = .ok (some "Unmatched ')'") ∧
      Trace.errorMessage? <$> (ofSettings {}).trace "(1..2)÷(0" = .ok (some "Unmatched '('") ∧
      Outcome.errorKind? <$> (ofSettings {}).commit "(1÷0)+." ≠ .ok none := by
  refine ⟨?_, ?_, ?_, fun h => ?_⟩
  · have hfirst : FirstForeign "1..2)+x$(".toList "1..2)+".toList 'x' :=
      ⟨⟨['$', '('], by decide +kernel⟩, by decide +kernel, by decide +kernel⟩
    rw [(diagnosis _ _).2.1 _ _ hfirst]
    exact congrArg (fun message => Except.ok (some message)) (by decide +kernel)
  · exact (diagnosis _ _).2.2 (by decide +kernel) (by decide +kernel)
  · exact (diagnosis _ _).2.2 (by decide +kernel) (by decide +kernel)
  · exact absurd (((diagnosis _ _).1 _ List.mem_cons_self).2.2.1 h ['.'] (by decide +kernel)) (by decide +kernel)

end Reckoner.Calculator
