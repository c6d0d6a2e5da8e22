import Reckoner.Proofs.Calculator.Stages
import Reckoner.Proofs.Token.Tally

/-!
# Evaluation — malformed is a matter of shape

Whether tokens in postfix order find the values they take, and how many are left, is seen without their values.  `Token.height` counts the values on the stack: it fails at the first token that is out of place, and otherwise tells how many there are at the end.  An evaluation follows the count step by step (`stepped_of_heightAfter`), until it fails because of a value: a numeral without one, a division by zero or an overflow (`Failure.OfValues`).  If it does not fail so, it ends as the count says (`ending_evaluate`).  The main statement is `evaluate_of_height`.
-/

namespace Reckoner

open Decimal (Context)
open Evaluation (bind_eq_error_iff bind_eq_ok_iff)

/-! ### Where steps fail -/

section

variable {σ α ε : Type} {step : σ → α → Except ε σ} {s : σ} {as : List α} {e : ε}

/-- Taken one after another, the steps fail at place `i`, and none before it. -/
inductive FailsAt (step : σ → α → Except ε σ) : σ → List α → ℕ → ε → Prop
  | here {s : σ} {a : α} {as : List α} {e : ε} : step s a = .error e → FailsAt step s (a :: as) 0 e
  | later {s s' : σ} {a : α} {as : List α} {i : ℕ} {e : ε} : step s a = .ok s' → FailsAt step s' as i e →
      FailsAt step s (a :: as) (i + 1) e

theorem foldlM_eq_error_iff : as.foldlM step s = .error e ↔ ∃ i, FailsAt step s as i e := by
  constructor
  · intro h
    induction as generalizing s with
    | nil => cases h
    | cons a as ih =>
      rw [List.foldlM_cons] at h
      rcases bind_eq_error_iff.mp h with h | ⟨s', hstep, h⟩
      · exact ⟨0, .here h⟩
      · obtain ⟨i, hi⟩ := ih h
        exact ⟨i + 1, .later hstep hi⟩
  · rintro ⟨i, hi⟩
    induction hi with
    | here h => rw [List.foldlM_cons, h]; rfl
    | later h _ ih => rw [List.foldlM_cons, h]; exact ih

end

/-! ### Heights -/

namespace Token

variable {n k i : ℕ} {t : Token} {ts us : List Token} {m : Mistake}

/-- How many values there are after a token, `n` being there before it. -/
def heightAfter (n : ℕ) (t : Token) : Except Mistake ℕ :=
  if t.kind = .paren then .error (.unexpectedToken t.text)
  else if t.arity ≤ n then .ok (t.depth n) else .error .operandMissing

/-- How many values tokens in postfix order leave. -/
def height (ts : List Token) : Except Mistake ℕ := ts.foldlM heightAfter 0

theorem kind_of_heightAfter (h : heightAfter n t = .error m) : m.kind = .malformedExpression := by
  rw [heightAfter] at h
  split at h
  · cases h; rfl
  · split at h <;> cases h; rfl

theorem kind_of_failsAt (h : FailsAt heightAfter n ts i m) : m.kind = .malformedExpression := by
  induction h with
  | here h => exact kind_of_heightAfter h
  | later _ _ ih => exact ih

/-- The token, whatever is written in a numeral. -/
def shape : Token → Token
  | num _ => number ""
  | t => t

theorem heightAfter_shape (n : ℕ) (t : Token) : heightAfter n t.shape = heightAfter n t := by
  cases t <;> rfl

theorem height_shape (ts : List Token) : height (ts.map shape) = height ts := by
  rw [height, List.foldlM_map]
  simp only [heightAfter_shape]
  rfl

/-- What is to be said of tokens from their height alone. -/
def verdict (ts : List Token) : Except Mistake Unit :=
  height ts >>= fun k => if k = 1 then .ok () else .error (.leftover k)

/-- **The verdict depends on the shape only.** -/
theorem verdict_congr (h : us.map shape = ts.map shape) : verdict us = verdict ts := by
  rw [verdict, verdict, ← height_shape us, h, height_shape]

end Token

/-- It was a value that made the evaluation fail. -/
def Failure.OfValues : Failure → Prop
  | mistake m => m.kind = .invalidNumber ∨ m.kind = .divisionByZero
  | signal s => s = .overflow

namespace Evaluation

open Token (heightAfter height shape verdict)

variable {ctx : Context} {stack stack' : List Decimal} {t : Token} {ts us : List Token} {f : Failure} {m : Mistake}
  {n k i : ℕ}

/-! ### One token -/

/-- A token that is out of place is refused.  One that finds the values it takes is a mistake only because of them. -/
theorem step_cases (ctx : Context) (stack : List Decimal) (t : Token) :
    (∃ m, heightAfter stack.length t = .error m ∧ step ctx stack t = .error (.mistake m)) ∨
      heightAfter stack.length t = .ok (t.depth stack.length) ∧
        ∀ m, step ctx stack t = .error (.mistake m) → m.kind = .invalidNumber ∨ m.kind = .divisionByZero := by
  cases t with
  | num n =>
    refine .inr ⟨rfl, fun m h => .inl ?_⟩
    obtain ⟨m', hm', heq⟩ := mapError_eq_error_iff.mp (map_eq_error_iff.mp h)
    cases heq
    exact Numeral.kind_of_value hm'
  | op o =>
    rcases stack with _ | ⟨b, _ | ⟨a, below⟩⟩
    · exact .inl ⟨_, rfl, rfl⟩
    · exact .inl ⟨_, rfl, rfl⟩
    · refine .inr ⟨by simp [heightAfter, Token.kind, Token.arity], fun m h => .inr ?_⟩
      rw [apply_eq_mistake (map_eq_error_iff.mp h)]
      rfl
  | percent target =>
    rcases stack with _ | ⟨p, below⟩
    · exact .inl ⟨_, rfl, rfl⟩
    · refine .inr ⟨by simp [heightAfter, Token.kind, Token.arity], fun m h => ?_⟩
      rcases bind_eq_error_iff.mp h with h | ⟨fraction, -, h⟩
      · exact absurd h computed_eq_mistake
      · exact absurd h percentage_ne_mistake
  | lparen | rparen => exact .inl ⟨_, rfl, rfl⟩

theorem step_eq_error_of_heightAfter (h : heightAfter stack.length t = .error m) :
    step ctx stack t = .error (.mistake m) := by
  obtain ⟨m', hm', hstep⟩ | ⟨hok, -⟩ := step_cases ctx stack t
  · cases h.symm.trans hm'
    exact hstep
  · cases h.symm.trans hok

/-- **A step follows the count**, or fails because of a value. -/
theorem stepped_of_heightAfter (ctx : Context) (h : heightAfter stack.length t = .ok k) :
    (∃ f, f.OfValues ∧ step ctx stack t = .error f) ∨
      ∃ stack', step ctx stack t = .ok stack' ∧ stack'.length = k := by
  obtain ⟨m, hm, -⟩ | ⟨hok, hmistake⟩ := step_cases ctx stack t
  · cases h.symm.trans hm
  · cases h.symm.trans hok
    rcases hstep : step ctx stack t with (m | s) | stack'
    · exact .inl ⟨.mistake m, hmistake m hstep, rfl⟩
    · exact .inl ⟨.signal s, ((signals_step ctx stack t s).mp hstep).1, rfl⟩
    · exact .inr ⟨stack', rfl, step_length hstep⟩

/-! ### A run -/

/-- **Where the count fails, so does a run**, if no value has made it fail before. -/
theorem failsAt_of_heightAfter (ctx : Context) (h : FailsAt heightAfter n ts i m) (hn : stack.length = n) :
    (∃ j f, j < i ∧ f.OfValues ∧ FailsAt (step ctx) stack ts j f) ∨
      FailsAt (step ctx) stack ts i (.mistake m) := by
  -- as long as the steps succeed, the stack is as high as the count says
  induction h generalizing stack with
  | here h =>
    subst hn
    exact .inr (.here (step_eq_error_of_heightAfter h))
  | later h _ ih =>
    subst hn
    obtain ⟨f, hf, hstep⟩ | ⟨stack', hstep, hlength⟩ := stepped_of_heightAfter ctx h
    · exact .inl ⟨0, f, Nat.succ_pos _, hf, .here hstep⟩
    · obtain ⟨j, f, hj, hf, hfails⟩ | hfails := ih hlength
      · exact .inl ⟨j + 1, f, Nat.succ_lt_succ hj, hf, .later hstep hfails⟩
      · exact .inr (.later hstep hfails)

/-- **A run leaves as many values as the count says**, if no value makes it fail. -/
theorem run_of_foldlM (ctx : Context) (stack : List Decimal) (h : ts.foldlM heightAfter stack.length = .ok k) :
    (∃ i f, f.OfValues ∧ FailsAt (step ctx) stack ts i f) ∨
      ∃ stack', run ctx stack ts = .ok stack' ∧ stack'.length = k := by
  induction ts generalizing stack with
  | nil => cases h; exact .inr ⟨stack, rfl, rfl⟩
  | cons t ts ih =>
    rw [List.foldlM_cons] at h
    obtain ⟨between, hheight, h⟩ := bind_eq_ok_iff.mp h
    obtain ⟨f, hf, hstep⟩ | ⟨stack', hstep, rfl⟩ := stepped_of_heightAfter ctx hheight
    · exact .inl ⟨0, f, hf, .here hstep⟩
    · obtain ⟨i, f, hf, hfails⟩ | ⟨stack'', hrun, hlength⟩ := ih stack' h
      · exact .inl ⟨i + 1, f, hf, .later hstep hfails⟩
      · exact .inr ⟨stack'', by rw [run_cons, hstep]; exact hrun, hlength⟩

/-! ### An evaluation -/

theorem evaluate_of_failsAt (h : FailsAt (step ctx) [] ts i f) : evaluate ctx ts = .error f :=
  bind_eq_error_iff.mpr (.inl (foldlM_eq_error_iff.mpr ⟨i, h⟩))

/-- Of tokens that leave one value, only the values can be wrong. -/
theorem ofValues_of_evaluate (hheight : height ts = .ok 1) (h : evaluate ctx ts = .error f) : f.OfValues := by
  obtain ⟨i, f', hf', hfails⟩ | ⟨stack, hrun, hlength⟩ := run_of_foldlM ctx [] hheight
  · obtain rfl : f' = f := Except.error.inj ((evaluate_of_failsAt hfails).symm.trans h)
    exact hf'
  · -- the one value left is rounded, which at most overflows
    obtain ⟨v, rfl⟩ := List.length_eq_one_iff.mp hlength
    rw [evaluate, hrun, ok_bind] at h
    cases f with
    | mistake m => exact absurd h computed_eq_mistake
    | signal s => exact (result_eq_signal_iff.mp h).1

theorem evaluate_leftover (ctx : Context) (hheight : height ts = .ok k) (hk : k ≠ 1) :
    (∃ i f, f.OfValues ∧ FailsAt (step ctx) [] ts i f ∧ evaluate ctx ts = .error f) ∨
      evaluate ctx ts = .error (.mistake (.leftover k)) := by
  obtain ⟨i, f, hf, hfails⟩ | ⟨stack, hrun, rfl⟩ := run_of_foldlM ctx [] hheight
  · exact .inl ⟨i, f, hf, hfails, evaluate_of_failsAt hfails⟩
  · refine .inr ?_
    rw [evaluate, hrun, ok_bind]
    rcases stack with _ | ⟨v, _ | ⟨u, stack⟩⟩
    · rfl
    · exact absurd rfl hk
    · rfl

theorem evaluate_refused (ctx : Context) (h : FailsAt heightAfter 0 ts i m) :
    (∃ j f, j < i ∧ f.OfValues ∧ FailsAt (step ctx) [] ts j f ∧ evaluate ctx ts = .error f) ∨
      FailsAt (step ctx) [] ts i (.mistake m) ∧ evaluate ctx ts = .error (.mistake m) := by
  obtain ⟨j, f, hj, hf, hfails⟩ | hfails := failsAt_of_heightAfter ctx h (rfl : ([] : List Decimal).length = 0)
  · exact .inl ⟨j, f, hj, hf, hfails, evaluate_of_failsAt hfails⟩
  · exact .inr ⟨hfails, evaluate_of_failsAt hfails⟩

/-- How an evaluation ends, whatever its value. -/
def ending (r : Except Failure Decimal) : Except Failure Unit := (fun _ => ()) <$> r

/-- **An evaluation ends as the count says**, if no value makes it fail. -/
theorem ending_evaluate (h : ∀ f, evaluate ctx ts = .error f → ¬ f.OfValues) :
    ending (evaluate ctx ts) = (verdict ts).mapError .mistake := by
  rw [verdict]
  cases hheight : height ts with
  | error m =>
    obtain ⟨i, hi⟩ := foldlM_eq_error_iff.mp hheight
    obtain ⟨j, f, -, hf, -, heval⟩ | ⟨-, heval⟩ := evaluate_refused ctx hi
    · exact absurd hf (h f heval)
    · rw [heval]; rfl
  | ok k =>
    rw [ok_bind]
    split
    · next hk =>
      subst hk
      cases heval : evaluate ctx ts with
      | error f => exact absurd (ofValues_of_evaluate hheight heval) (h f heval)
      | ok v => rfl
    · next hk =>
      obtain ⟨i, f, hf, -, heval⟩ | heval := evaluate_leftover ctx hheight hk
      · exact absurd hf (h f heval)
      · rw [heval]; rfl

/-- **Malformed is a matter of shape.**  If the count comes to one value, an evaluation never reports malformed tokens.  Where the count fails the evaluation fails too, at the same token and as malformed, unless it has failed before because of a value; and if another number of values is left, that number is reported, unless it has failed so.  Tokens that differ in numerals only, none of which makes it fail, have the same verdict. -/
theorem evaluate_of_height (ctx : Context) (ts : List Token) :
    (height ts = .ok 1 → ∀ m, evaluate ctx ts = .error (.mistake m) → m.kind ≠ .malformedExpression) ∧
    (∀ i m, FailsAt heightAfter 0 ts i m → m.kind = .malformedExpression ∧
      ((∃ j f, j < i ∧ f.OfValues ∧ FailsAt (step ctx) [] ts j f ∧ evaluate ctx ts = .error f) ∨
        FailsAt (step ctx) [] ts i (.mistake m) ∧ evaluate ctx ts = .error (.mistake m))) ∧
    (∀ k, height ts = .ok k → k ≠ 1 →
      (∃ i f, f.OfValues ∧ FailsAt (step ctx) [] ts i f ∧ evaluate ctx ts = .error f) ∨
        evaluate ctx ts = .error (.mistake (.leftover k))) ∧
    ∀ ctx' us, us.map shape = ts.map shape → (∀ f, evaluate ctx ts = .error f → ¬ f.OfValues) →
      (∀ f, evaluate ctx' us = .error f → ¬ f.OfValues) →
      ending (evaluate ctx' us) = ending (evaluate ctx ts) := by
  refine ⟨fun hheight m h hkind => ?_, fun i m h => ⟨Token.kind_of_failsAt h, evaluate_refused ctx h⟩,
    fun k hheight hk => evaluate_leftover ctx hheight hk, fun ctx' us hshape hts hus => ?_⟩
  · obtain hm | hm := ofValues_of_evaluate hheight h <;> rw [hkind] at hm <;> cases hm
  · rw [ending_evaluate hts, ending_evaluate hus, Token.verdict_congr hshape]

/-- An operator that lacks an operand is reported behind a quotient, but not behind one by zero; a percentage leaves one value if it is unmarked, and two if it is marked with a sum. -/
theorem evaluate_of_height_quotient :
    let ctx : Context := { precision := 3 }
    let quotient (a b : String) : List Token := [.number a, .number b, .op .div, .op .add]
    let percentage (target : Option BinOp) : List Token := [.number "50", .number "10", .percent target]
    (∀ m, evaluate ctx (percentage none) = .error (.mistake m) → m.kind ≠ .malformedExpression) ∧
      ((∃ i f, f.OfValues ∧ FailsAt (step ctx) [] (percentage (some .add)) i f ∧
          evaluate ctx (percentage (some .add)) = .error f) ∨
        evaluate ctx (percentage (some .add)) = .error (.mistake (.leftover 2))) ∧
      evaluate ctx (quotient "1" "0") = .error (.mistake .divisionByZero) ∧
      ((∃ j f, j < 3 ∧ f.OfValues ∧ FailsAt (step ctx) [] (quotient "1" "0") j f ∧
          evaluate ctx (quotient "1" "0") = .error f) ∨
        FailsAt (step ctx) [] (quotient "1" "0") 3 (.mistake .operandMissing) ∧
          evaluate ctx (quotient "1" "0") = .error (.mistake .operandMissing)) ∧
      ending (evaluate ctx (quotient "8" "9")) = ending (evaluate ctx (quotient "1" "2")) := by
  intro ctx quotient percentage
  have hfails (a b : String) : FailsAt heightAfter 0 (quotient a b) 3 .operandMissing :=
    .later rfl (.later rfl (.later rfl (.here rfl)))
  have hmissing {a b : String} (h : evaluate ctx (quotient a b) = .error (.mistake .operandMissing)) :
      ∀ f, evaluate ctx (quotient a b) = .error f → ¬ f.OfValues := by
    intro f hf hvalues
    cases h.symm.trans hf
    rcases hvalues with h | h <;> cases h
  refine ⟨(evaluate_of_height ctx _).1 rfl, (evaluate_of_height ctx _).2.2.1 2 rfl (by decide), by decide +kernel,
    ((evaluate_of_height ctx _).2.1 3 _ (hfails "1" "0")).2, ?_⟩
  exact (evaluate_of_height ctx _).2.2.2 ctx _ rfl (hmissing (by decide +kernel)) (hmissing (by decide +kernel))

end Evaluation

end Reckoner
