import Reckoner.Proofs.Calculator.Verdict
import Reckoner.Proofs.Calculator.Written
import Reckoner.Proofs.Token.Parentheses

/-!
# Calculator — stage by stage

A text is read, put in order, evaluated and displayed, and each stage has mistakes of its own: reading finds foreign characters, ordering finds unmatched parentheses, and evaluation finds everything else (`evaluate_eq_mistake`).  `traced` says for each stage that a text can end in what is traced and what is computed then.  So a finished text and a trace report the same kind of mistake: `errorKind?_commit` and `errorKind?_trace`.
-/

namespace Reckoner

open Decimal (Context Signal)
open Evaluation (map_eq_ok_iff bind_eq_ok_iff map_eq_error_iff bind_eq_error_iff mapError_eq_error_iff
  mapError_eq_ok_iff ok_bind)

/-! ### The mistakes of an evaluation -/

theorem Numeral.kind_of_value {text : String} {m : Mistake} (h : Numeral.value text = .error m) :
    m.kind = .invalidNumber := by
  rw [Numeral.value] at h
  split at h
  · cases h
  · split at h
    · cases h
    · cases h; rfl

namespace Evaluation

variable {ctx : Context} {stack stack' : List Decimal} {t : Token} {ts : List Token} {m : Mistake}

theorem computed_eq_mistake {r : Except Signal Decimal} : computed r ≠ .error (.mistake m) :=
  computed_ne_mistake r m

theorem apply_eq_mistake {o : BinOp} {a b : Decimal} (h : apply ctx o a b = .error (.mistake m)) :
    m = .divisionByZero := by
  obtain ⟨-, happly⟩ | ⟨-, r, happly, -⟩ := apply_cases ctx o a b
  · rw [happly] at h
    cases h
    rfl
  · exact absurd (happly ▸ h) computed_eq_mistake

theorem percentage_ne_mistake {target : Option BinOp} {fraction : Decimal} :
    percentage ctx target fraction stack ≠ .error (.mistake m) := by
  intro h
  rcases stack with _ | ⟨a, below⟩
  · cases h
  · rcases target with _ | _ | _ | _ | _
    · exact computed_eq_mistake (map_eq_error_iff.mp h)
    · exact computed_eq_mistake (map_eq_error_iff.mp h)
    · exact computed_eq_mistake (map_eq_error_iff.mp h)
    · cases h
    · cases h

/-- A token meets a numeral without a value, divides by zero or is out of place. -/
theorem step_eq_mistake (h : step ctx stack t = .error (.mistake m)) :
    (∃ n, t = .num n ∧ Numeral.value n.text = .error m) ∨ m.kind = .divisionByZero ∨
      m.kind = .malformedExpression := by
  cases t with
  | num n =>
    obtain ⟨m', hm', heq⟩ := mapError_eq_error_iff.mp (map_eq_error_iff.mp h)
    cases heq
    exact .inl ⟨n, rfl, hm'⟩
  | op o =>
    rcases stack with _ | ⟨b, _ | ⟨a, below⟩⟩
    · cases h; exact .inr (.inr rfl)
    · cases h; exact .inr (.inr rfl)
    · rw [apply_eq_mistake (map_eq_error_iff.mp h)]
      exact .inr (.inl rfl)
  | percent target =>
    rcases stack with _ | ⟨p, below⟩
    · cases h; exact .inr (.inr rfl)
    · rcases bind_eq_error_iff.mp h with h | ⟨fraction, -, h⟩
      · exact absurd h computed_eq_mistake
      · exact absurd h percentage_ne_mistake
  | lparen | rparen => cases h; exact .inr (.inr rfl)

theorem run_eq_mistake (h : run ctx stack ts = .error (.mistake m)) :
    (∃ n, .num n ∈ ts ∧ Numeral.value n.text = .error m) ∨ m.kind = .divisionByZero ∨
      m.kind = .malformedExpression := by
  induction ts generalizing stack with
  | nil => cases h
  | cons t ts ih =>
    rw [run_cons] at h
    rcases bind_eq_error_iff.mp h with h | ⟨between, -, h⟩
    · exact (step_eq_mistake h).imp_left fun ⟨n, hn, hv⟩ => ⟨n, hn ▸ List.mem_cons_self, hv⟩
    · exact (ih h).imp_left fun ⟨n, hn, hv⟩ => ⟨n, List.mem_cons_of_mem _ hn, hv⟩

/-- **The mistakes of an evaluation** are numerals without a value, divisions by zero and malformed expressions. -/
theorem evaluate_eq_mistake (h : evaluate ctx ts = .error (.mistake m)) :
    (∃ n, .num n ∈ ts ∧ Numeral.value n.text = .error m) ∨ m.kind = .divisionByZero ∨
      m.kind = .malformedExpression := by
  rcases bind_eq_error_iff.mp h with h | ⟨values, -, h⟩
  · exact run_eq_mistake h
  · rcases values with _ | ⟨v, _ | ⟨u, values⟩⟩
    · cases h; exact .inr (.inr rfl)
    · exact absurd h computed_eq_mistake
    · cases h; exact .inr (.inr rfl)

/-- What reading and ordering find is not found again. -/
theorem kind_of_evaluate (h : evaluate ctx ts = .error (.mistake m)) :
    m.kind ≠ .invalidCharacter ∧ m.kind ≠ .mismatchedParentheses := by
  have hkind : m.kind = .invalidNumber ∨ m.kind = .divisionByZero ∨ m.kind = .malformedExpression :=
    (evaluate_eq_mistake h).imp_left fun ⟨_, _, hv⟩ => Numeral.kind_of_value hv
  rcases hkind with hk | hk | hk <;> rw [hk] <;> exact ⟨nofun, nofun⟩

/-- Every numeral a run has passed has a value. -/
theorem value_of_run {n : Numeral} (h : run ctx stack ts = .ok stack') (hn : .num n ∈ ts) :
    ∃ d, Numeral.value n.text = .ok d := by
  induction ts generalizing stack with
  | nil => cases hn
  | cons t ts ih =>
    rw [run_cons] at h
    obtain ⟨between, hstep, h⟩ := bind_eq_ok_iff.mp h
    rcases List.mem_cons.mp hn with rfl | hn
    · cases step_eq_ok_iff.mp hstep with
      | num hv => exact ⟨_, hv⟩
    · exact ih h hn

end Evaluation

/-! ### What is traced -/

namespace Trace

def errorKind? (t : Trace) : Option Mistake.Kind := t.mistake?.map Mistake.kind

def errorMessage? (t : Trace) : Option String := t.mistake?.map Mistake.message

end Trace

namespace Calculator

open Expression (canonical)

/-- What is traced and what is computed, by the stage a text ends in. -/
inductive Traced (c : Calculator) (text : String) :
    Except Signal Trace → Except Failure String → Prop
  | unread {m : Mistake} : Token.scan text = .error m → Traced c text
      (.ok { expression := canonical text, mistake? := some m }) (.error (.mistake m))
  | unordered {ts : List Token} {m : Mistake} : Token.scan text = .ok ts → Token.toPostfix ts = .error m → Traced c text
      (.ok { expression := canonical text, tokens := ts, mistake? := some m }) (.error (.mistake m))
  | unevaluated {ts rpn : List Token} {m : Mistake} : Token.scan text = .ok ts → Token.toPostfix ts = .ok rpn →
      evaluate c.context rpn = .error (.mistake m) → Traced c text
      (.ok { expression := canonical text, tokens := ts, rpn, mistake? := some m }) (.error (.mistake m))
  | signalled {ts rpn : List Token} {s : Signal} : Token.scan text = .ok ts → Token.toPostfix ts = .ok rpn →
      evaluate c.context rpn = .error (.signal s) → Traced c text (.error s) (.error (.signal s))
  | unshown {ts rpn : List Token} {v : Decimal} {s : Signal} : Token.scan text = .ok ts → Token.toPostfix ts = .ok rpn →
      evaluate c.context rpn = .ok v → c.shown v = .error s → Traced c text (.error s) (.error (.signal s))
  | shown {ts rpn : List Token} {v : Decimal} {display : String} : Token.scan text = .ok ts → Token.toPostfix ts = .ok rpn →
      evaluate c.context rpn = .ok v → c.shown v = .ok display → Traced c text
      (.ok { expression := canonical text, tokens := ts, rpn, value? := some v.plain, display }) (.ok display)

/-- **Every text ends in one of the stages.** -/
theorem traced (c : Calculator) (text : String) : Traced c text (c.trace text) (c.compute text) := by
  rw [trace, compute]
  cases hscan : Token.scan text with
  | error m => exact .unread hscan
  | ok ts =>
    simp only [Evaluation.mapError_ok, ok_bind]
    cases hrpn : Token.toPostfix ts with
    | error m => exact .unordered hscan hrpn
    | ok rpn =>
      simp only [Evaluation.mapError_ok, ok_bind]
      rcases hvalue : evaluate c.context rpn with (m | s) | v
      · exact .unevaluated hscan hrpn hvalue
      · exact .signalled hscan hrpn hvalue
      · cases hshown : c.shown v with
        | error s => simp only [ok_bind, hshown]; exact .unshown hscan hrpn hvalue hshown
        | ok display => simp only [ok_bind, hshown]; exact .shown hscan hrpn hvalue hshown

/-! ### What is reported -/

/-- The kind of the mistake in what was computed, if there is one. -/
def reported {α : Type} : Except Failure α → Except Signal (Option Mistake.Kind)
  | .ok _ => .ok none
  | .error (.mistake m) => .ok (some m.kind)
  | .error (.signal s) => .error s

theorem errorKind?_settled (c : Calculator) (expression : String) (r : Except Failure String) :
    Outcome.errorKind? <$> c.settled expression (r.mapError Failure.kind) = reported r := by
  rcases r with (m | s) | display <;> rfl

/-- A finished text reports the mistake that is computed; blanks alone are no exception. -/
theorem errorKind?_commit (c : Calculator) (text : String) :
    Outcome.errorKind? <$> c.commit text = reported (c.compute text) := by
  rw [commit_eq, ← compute_kind, errorKind?_settled]

/-- So does a trace. -/
theorem errorKind?_trace (c : Calculator) (text : String) :
    Trace.errorKind? <$> c.trace text = reported (c.compute text) := by
  have h := traced c text
  generalize c.trace text = t, c.compute text = r at h ⊢
  cases h <;> rfl

end Calculator

end Reckoner
