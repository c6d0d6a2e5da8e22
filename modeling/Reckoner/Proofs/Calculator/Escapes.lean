import Reckoner.Proofs.Overflow
import Reckoner.Proofs.Calculator.Stages
import Reckoner.Token.Record

/-!
# Calculator — what can escape

Whatever its tokens, an evaluation ends with a normal value, with one of three kinds of mistakes or with an overflow (`evaluate_cases`), and every value that is ever on its stack is that of a numeral or fits the context (`fits_of_mem_run`).  Reading and ordering have one kind of mistake each, and no token is refused by the check that tokens from elsewhere have to pass (`ofParts_parts`).  So a text that is shown or finished ends in an answer or in an overflow: `only_overflow_escapes`.
-/

namespace Reckoner

open Decimal (Context Signal)

/-! ### Tokens -/

namespace Token

theorem ofText_text (t : Token) : ofText t.kind t.text = .ok t.unmarked := by
  cases t with
  | op o => cases o <;> rfl
  | num _ | percent _ | lparen | rparen => rfl

theorem mark_unmarked {t : Token} {o : BinOp} (h : t.target? = some o) : t.unmarked.mark o = some t := by
  cases t with
  | num n =>
    obtain ⟨text, target, hmark⟩ := n
    obtain rfl : target = some o := h
    have htext : text = "%" := by
      by_contra hne
      cases hmark hne
    subst htext
    rfl
  | percent target => exact congrArg (fun target => some (percent target)) h.symm
  | op _ | lparen | rparen => cases h

/-- **No token is refused**: the check accepts the parts of every token, and makes that token of them. -/
theorem ofParts_parts (t : Token) : ofParts t.kind t.text (t.target?.map BinOp.symbol) = .ok t := by
  rw [ofParts, ofText_text, Evaluation.ok_bind]
  cases htarget : t.target? with
  | none => exact congrArg Except.ok (unmarked_eq_self htarget)
  | some o => simp only [Option.map_some, BinOp.ofSymbol?_symbol, Option.bind_some, mark_unmarked htarget]; rfl

theorem scan_eq_error {text : String} {m : Mistake} (h : scan text = .error m) : m.kind = .invalidCharacter := by
  obtain ⟨_, _, -, rfl⟩ := scan_eq_error_iff.mp h
  rfl

end Token

/-! ### Values -/

/-- As an evaluation delivers it: no more digits than the context keeps, an exponent in range, and no negative zero. -/
structure Decimal.Context.Normalised (ctx : Context) (v : Decimal) : Prop where
  digits : digitCount v.coefficient ≤ ctx.precision
  least_le : ctx.least ≤ v.exponent
  le_maxExponent : v.exponent ≤ maxExponent
  unsigned : v.isZero = true → v.negative = false

theorem Decimal.exponent_le_adjusted (d : Decimal) : d.exponent ≤ d.adjusted := by
  have := digitCount_pos d.coefficient
  rw [adjusted]
  omega

theorem Decimal.Context.Final.normalised {ctx : Context} {v : Decimal} (h : ctx.Final v) : ctx.Normalised v where
  digits := digitCount_le ctx.precision_pos h.digits
  least_le := h.least_le
  le_maxExponent := v.exponent_le_adjusted.trans h.adjusted_le
  unsigned hzero := Bool.eq_false_iff.mpr fun hneg => h.signed hneg (beq_iff_eq.mp hzero)

namespace Evaluation

variable {ctx : Context} {ts : List Token} {stack : List Decimal} {d : Decimal}

/-- **Every value on the stack is that of a numeral or fits the context.** -/
theorem fits_of_mem_run (h : run ctx [] ts = .ok stack) (hd : d ∈ stack) :
    (∃ n, .num n ∈ ts ∧ Numeral.value n.text = .ok d) ∨ ctx.Fits d := by
  rcases run_mem h hd with hd | hnumeral | ⟨x, hx⟩
  · cases hd
  · exact .inl hnumeral
  · exact .inr (Decimal.fits_of_round hx)

/-- **An evaluation has three ends**: a normal value, a mistake of one of three kinds, an overflow. -/
theorem evaluate_cases (ctx : Context) (ts : List Token) :
    (∃ v, evaluate ctx ts = .ok v ∧ ctx.Normalised v) ∨
      (∃ m, evaluate ctx ts = .error (.mistake m) ∧
        (m.kind = .invalidNumber ∨ m.kind = .divisionByZero ∨ m.kind = .malformedExpression)) ∨
      evaluate ctx ts = .error (.signal .overflow) := by
  rcases h : evaluate ctx ts with (m | s) | v
  · refine .inr (.inl ⟨m, rfl, ?_⟩)
    exact (evaluate_eq_mistake h).imp_left fun ⟨_, _, hvalue⟩ => Numeral.kind_of_value hvalue
  · obtain ⟨rfl, -⟩ := evaluate_eq_signal_iff.mp h
    exact .inr (.inr rfl)
  · exact .inl ⟨v, rfl, (Calculator.final_of_evaluate h).normalised⟩

end Evaluation

/-! ### Texts -/

namespace Calculator

variable {c : Calculator}

theorem eq_overflow_of_error {shown : Context} (hd : c.settings.display = .ok shown) {text : String} {s : Signal}
    (h : c.preview text = .error s ∨ c.commit text = .error s) : s = .overflow := by
  rw [preview_eq_error_iff, commit_eq_error_iff, or_self, compute_eq_signal_iff hd] at h
  exact h.1

/-- **Only an overflow escapes.**  An evaluation of whatever tokens ends with a normal value, a mistake of one of its three kinds or an overflow, and on its stack there are only values of numerals and numbers that fit the context.  The mistakes of reading and ordering are of their own kinds, and every token is one that the check of tokens accepts as it stands.  So a calculator shows and finishes every text or signals an overflow, provided there is a context to show results in, as there is for one that could be set up from its settings. -/
theorem only_overflow_escapes :
    (∀ (ctx : Context) (ts : List Token),
      ((∃ v, evaluate ctx ts = .ok v ∧ ctx.Normalised v) ∨
        (∃ m, evaluate ctx ts = .error (.mistake m) ∧
          (m.kind = .invalidNumber ∨ m.kind = .divisionByZero ∨ m.kind = .malformedExpression)) ∨
        evaluate ctx ts = .error (.signal .overflow)) ∧
      ∀ done stack, done <+: ts → Evaluation.run ctx [] done = .ok stack →
        ∀ d ∈ stack, (∃ n, .num n ∈ done ∧ Numeral.value n.text = .ok d) ∨ ctx.Fits d) ∧
    (∀ text m, Token.scan text = .error m → m.kind = .invalidCharacter) ∧
    (∀ ts m, Token.toPostfix ts = .error m → m.kind = .mismatchedParentheses) ∧
    (∀ t : Token, Token.ofParts t.kind t.text (t.target?.map BinOp.symbol) = .ok t) ∧
    (∀ (c : Calculator) shown, c.settings.display = .ok shown → ∀ text s,
      c.preview text = .error s ∨ c.commit text = .error s → s = .overflow) ∧
    ∀ s (c : Calculator), Setup.ofSettings s = .ok c → ∃ shown, c.settings.display = .ok shown := by
  refine ⟨fun ctx ts => ⟨Evaluation.evaluate_cases ctx ts, fun done stack _ hrun d hd =>
    Evaluation.fits_of_mem_run hrun hd⟩, fun text m => Token.scan_eq_error, fun ts m => Token.toPostfix_eq_error,
    Token.ofParts_parts, fun c shown hd text s => eq_overflow_of_error hd, fun s c => display_of_ofSettings⟩

/-- A negative zero that an evaluation meets is not its value, and there are texts whose overflow escapes. -/
theorem only_overflow_escapes_runaway :
    let ctx : Context := { precision := 2 }
    let ts : List Token := [.number "0", .number "0", .number "5", .op .sub, .op .mul]
    (∃ zero, Evaluation.run ctx [] ts = .ok [zero] ∧ zero.isZero = true ∧ zero.negative = true ∧ ctx.Fits zero) ∧
      (∃ v, evaluate ctx ts = .ok v ∧ ctx.Normalised v) ∧
      Setup.ofSettings {} = .ok (.ofSettings {}) ∧
      ∃ s, (ofSettings {}).preview runaway = .error s ∧ s = .overflow := by
  intro ctx ts
  obtain ⟨hevaluate, -, -, -, hescapes, hdisplay⟩ := only_overflow_escapes
  obtain ⟨hends, hstack⟩ := hevaluate ctx ts
  have hrun : Evaluation.run ctx [] ts = .ok [⟨true, 0, 0⟩] := by decide +kernel
  have hvalue : evaluate ctx ts = .ok ⟨false, 0, 0⟩ := by decide +kernel
  have hnumeral : ∀ t ∈ ts, Numeral.value t.text ≠ .ok ⟨true, 0, 0⟩ := by decide +kernel
  have hc : Setup.ofSettings {} = .ok (.ofSettings {}) := rfl
  obtain ⟨shown, hshown⟩ := hdisplay _ _ hc
  have hpreview := (preview_ends runaway hshown).1 (runaway_overflows (ofSettings {}))
  refine ⟨⟨_, hrun, rfl, rfl, ?_⟩, ?_, hc, _, hpreview, hescapes _ shown hshown runaway _ (.inl hpreview)⟩
  · exact (hstack ts _ List.prefix_rfl hrun _ List.mem_cons_self).resolve_left fun ⟨n, hn, hneg⟩ =>
      hnumeral _ hn hneg
  · rcases hends with h | ⟨m, h, -⟩ | h
    · exact h
    · rw [hvalue] at h; cases h
    · rw [hvalue] at h; cases h

end Calculator

end Reckoner
