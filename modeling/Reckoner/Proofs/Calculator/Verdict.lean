import Reckoner.Proofs.Calculator
import Reckoner.Proofs.Token.Signs

/-!
# Calculator — only the signs of a text decide

The value of a text is a function of its signs, and so is what a caller sees of a failure: the kind of the mistake or the signal, not the place of the mistake nor its wording (`valueOf_kind`).  So is the outcome of a text but for the text itself (`commit_eq`).  The form kept in the history has the signs of the text, and is answered like it: `commit_canonical`.
-/

namespace Reckoner

open Decimal (Context Signal)
open Expression (canonical signs)

/-- What a caller sees of a failure. -/
def Failure.kind : Failure → Mistake.Kind ⊕ Signal
  | mistake m => .inl m.kind
  | signal s => .inr s

/-- What a caller sees of an outcome, but for the text. -/
def Outcome.verdict (o : Outcome) : String × Bool × Option Mistake.Kind :=
  (o.display, o.isError, o.errorKind?)

namespace Calculator

open Evaluation (mapError_bind mapError_mapError)

variable {c : Calculator} {text a b : String} {o : Outcome}

/-! ### Values -/

/-- The value of tokens in the order they are read. -/
def valueOfTokens (ctx : Context) (ts : List Token) : Except Failure Decimal := do
  let rpn ← (Token.toPostfix ts).mapError .mistake
  evaluate ctx rpn

/-- The value of signs, or what a caller sees of the failure. -/
def valueOfSigns (ctx : Context) (cs : List Char) : Except (Mistake.Kind ⊕ Signal) Decimal := do
  let ts ← (Token.ofSigns cs).mapError .inl
  (valueOfTokens ctx ts).mapError Failure.kind

theorem valueOf_eq_valueOfTokens (ctx : Context) (text : String) :
    valueOf ctx text = (Token.scan text).mapError .mistake >>= valueOfTokens ctx := rfl

/-- **Only the signs of a text count.** -/
theorem valueOf_kind (ctx : Context) (text : String) :
    (valueOf ctx text).mapError Failure.kind = valueOfSigns ctx (signs text) := by
  have hscan : ((Token.scan text).mapError Failure.mistake).mapError Failure.kind
      = (Token.ofSigns (signs text)).mapError .inl := by
    rw [← Token.scan_kind, mapError_mapError, mapError_mapError]
    rfl
  rw [valueOf_eq_valueOfTokens, mapError_bind, hscan]
  rfl

/-! ### Outcomes -/

/-- The display of signs, or what a caller sees of the failure. -/
def displayOfSigns (c : Calculator) (cs : List Char) : Except (Mistake.Kind ⊕ Signal) String := do
  let v ← valueOfSigns c.context cs
  (c.shown v).mapError .inr

theorem compute_kind (c : Calculator) (text : String) :
    (c.compute text).mapError Failure.kind = c.displayOfSigns (signs text) := by
  rw [compute_eq, mapError_bind, valueOf_kind]
  simp only [mapError_mapError]
  rfl

/-- The outcome of an expression that is displayed so, or fails so. -/
def settled (c : Calculator) (expression : String) :
    Except (Mistake.Kind ⊕ Signal) String → Except Signal Outcome
  | .ok display => .ok { expression, display }
  | .error (.inl k) => .ok { expression, display := c.label k, errorKind? := some k }
  | .error (.inr s) => .error s

theorem outcome_settle (c : Calculator) (text : String) (r : Except Failure String) :
    c.outcome text <$> settle r = c.settled (canonical text) (r.mapError Failure.kind) := by
  rcases r with (m | s) | display <;> rfl

/-- **The outcome of a text** is that of its signs; blanks alone are no exception. -/
theorem commit_eq (c : Calculator) (text : String) :
    c.commit text = c.settled (canonical text) (c.displayOfSigns (signs text)) := by
  rw [commit, attempt, ← compute_kind]
  split
  · next hblank => rw [compute_of_isEmpty_canonical hblank]; rfl
  · exact outcome_settle ..

/-- **The form kept in the history is answered like the text.** -/
theorem commit_canonical (c : Calculator) (text : String) :
    c.commit (canonical text) = c.commit text := by
  rw [commit_eq, commit_eq, Expression.canonical_canonical, Expression.signs_canonical]

theorem expression_eq_of_commit (h : c.commit text = .ok o) : o.expression = canonical text := by
  rw [commit_eq] at h
  rcases hr : c.displayOfSigns (signs text) with (k | s) | display <;> rw [hr] at h <;> cases h <;> rfl

/-- The outcomes that are no failures are those with a display. -/
theorem commit_eq_ok_iff : (c.commit text = .ok o ∧ o.isError = false) ↔
    ∃ display, c.compute text = .ok display ∧ o = { expression := canonical text, display } := by
  rw [commit_eq, ← compute_kind]
  rcases c.compute text with (m | s) | display
  · refine iff_of_false (fun ⟨h, herror⟩ => ?_) nofun
    cases h
    cases herror
  · exact iff_of_false (fun ⟨h, _⟩ => by cases h) nofun
  · constructor
    · rintro ⟨h, -⟩
      cases h
      exact ⟨display, rfl, rfl⟩
    · rintro ⟨display, h, rfl⟩
      cases h
      exact ⟨rfl, rfl⟩

theorem verdict_settled_congr (a b : String) (r : Except (Mistake.Kind ⊕ Signal) String) :
    Outcome.verdict <$> c.settled a r = Outcome.verdict <$> c.settled b r := by
  rcases r with (k | s) | display <;> rfl

/-- Texts with signs of one display get one verdict. -/
theorem verdict_commit_congr (h : c.displayOfSigns (signs a) = c.displayOfSigns (signs b)) :
    Outcome.verdict <$> c.commit a = Outcome.verdict <$> c.commit b := by
  rw [commit_eq, commit_eq, h]
  exact verdict_settled_congr ..

end Calculator

end Reckoner
