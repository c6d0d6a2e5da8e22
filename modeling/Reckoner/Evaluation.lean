import Reckoner.Decimal.Arithmetic
import Reckoner.Numeral
import Reckoner.Token

/-!
# Evaluation — running tokens in postfix order

`evaluate` runs tokens on a stack of decimals: a numeral is put on top, an operator takes its operands from the top and puts back its result.  A percentage `p` is `p ÷ 100`, and the value below it decides what that is a part of: marked with `+` or `-` it becomes that part of the value below, which stays; marked with `×` or `÷` or with nothing below it stands for itself; unmarked it takes the value below and becomes that part of it.
-/

namespace Reckoner

/-- Why an expression has no value: a mistake in it, or a signal of the arithmetic. -/
inductive Failure where
  | mistake (m : Mistake)
  | signal (s : Decimal.Signal)
deriving DecidableEq, Repr

namespace Evaluation

open Decimal (Context)

/-- A result of the arithmetic. -/
def computed (r : Except Decimal.Signal Decimal) : Except Failure Decimal := r.mapError .signal

/-- A binary operator.  A divisor of value zero is a mistake, not a signal. -/
def apply (ctx : Context) (o : BinOp) (a b : Decimal) : Except Failure Decimal :=
  match o with
  | .add => computed (ctx.add a b)
  | .sub => computed (ctx.sub a b)
  | .mul => computed (ctx.mul a b)
  | .div => if b.isZero then .error (.mistake .divisionByZero) else computed (ctx.div a b)

/-- The stack after a percent sign, for the fraction it makes of its operand. -/
def percentage (ctx : Context) (target : Option BinOp) (fraction : Decimal) :
    List Decimal → Except Failure (List Decimal)
  | [] => .ok [fraction]
  | a :: below =>
    match target with
    | some .add | some .sub => (· :: a :: below) <$> computed (ctx.mul a fraction)
    | some .mul | some .div => .ok (fraction :: a :: below)
    | none => (· :: below) <$> computed (ctx.mul a fraction)

/-- The stack after one token. -/
def step (ctx : Context) (stack : List Decimal) : Token → Except Failure (List Decimal)
  | .num n => (· :: stack) <$> (Numeral.value n.text).mapError .mistake
  | .op o =>
    match stack with
    | b :: a :: below => (· :: below) <$> apply ctx o a b
    | _ => .error (.mistake .operandMissing)
  | .percent target =>
    match stack with
    | p :: below => do
      let fraction ← computed (ctx.div p (.ofNat 100))
      percentage ctx target fraction below
    | [] => .error (.mistake .operandMissing)
  | .lparen => .error (.mistake (.unexpectedToken "("))
  | .rparen => .error (.mistake (.unexpectedToken ")"))

/-- The stack after a list of tokens. -/
def run (ctx : Context) (stack : List Decimal) (ts : List Token) : Except Failure (List Decimal) :=
  ts.foldlM (step ctx) stack

/-- The one value a run leaves, rounded. -/
def result (ctx : Context) : List Decimal → Except Failure Decimal
  | [v] => computed (ctx.plus v)
  | stack => .error (.mistake (.leftover stack.length))

section

variable {ε ε' ε'' α β : Type}

@[simp] theorem ok_bind (a : α) (k : α → Except ε β) : (Except.ok a >>= k) = k a := rfl

@[simp] theorem error_bind (e : ε) (k : α → Except ε β) : (Except.error e >>= k) = .error e := rfl

@[simp] theorem map_ok (f : α → β) (a : α) : f <$> (Except.ok a : Except ε α) = .ok (f a) := rfl

@[simp] theorem map_error (f : α → β) (e : ε) :
    f <$> (Except.error e : Except ε α) = .error e := rfl

@[simp] theorem mapError_ok (f : ε → ε') (a : α) : (Except.ok a).mapError f = .ok a := rfl

@[simp] theorem mapError_error (f : ε → ε') (e : ε) :
    (Except.error e : Except ε α).mapError f = .error (f e) := rfl

theorem mapError_eq_ok_iff {f : ε → ε'} {r : Except ε α} {a : α} :
    r.mapError f = .ok a ↔ r = .ok a := by
  cases r <;> simp

theorem mapError_eq_error_iff {f : ε → ε'} {r : Except ε α} {e : ε'} :
    r.mapError f = .error e ↔ ∃ e', r = .error e' ∧ f e' = e := by
  cases r <;> simp

theorem mapError_mapError (f : ε → ε') (g : ε' → ε'') (r : Except ε α) :
    (r.mapError f).mapError g = r.mapError (g ∘ f) := by
  cases r <;> rfl

theorem mapError_bind (f : ε → ε') (r : Except ε α) (k : α → Except ε β) :
    (r >>= k).mapError f = r.mapError f >>= fun a => (k a).mapError f := by
  cases r <;> rfl

theorem map_eq_ok_iff {f : α → β} {r : Except ε α} {b : β} :
    f <$> r = .ok b ↔ ∃ a, r = .ok a ∧ f a = b := by
  cases r <;> simp

theorem bind_eq_ok_iff {r : Except ε α} {k : α → Except ε β} {b : β} :
    (r >>= k) = .ok b ↔ ∃ a, r = .ok a ∧ k a = .ok b := by
  cases r <;> simp

theorem map_eq_error_iff {f : α → β} {r : Except ε α} {e : ε} :
    f <$> r = .error e ↔ r = .error e := by
  cases r <;> simp

/-- A sequence fails in its first step, or in the rest of it. -/
theorem bind_eq_error_iff {r : Except ε α} {k : α → Except ε β} {e : ε} :
    (r >>= k) = .error e ↔ r = .error e ∨ ∃ a, r = .ok a ∧ k a = .error e := by
  cases r <;> simp

end

theorem run_cons (ctx : Context) (stack : List Decimal) (t : Token) (ts : List Token) :
    run ctx stack (t :: ts) = step ctx stack t >>= fun stack' => run ctx stack' ts := rfl

theorem run_singleton (ctx : Context) (stack : List Decimal) (t : Token) :
    run ctx stack [t] = step ctx stack t := by
  simp [run]

theorem run_append (ctx : Context) (stack : List Decimal) (ts us : List Token) :
    run ctx stack (ts ++ us) = run ctx stack ts >>= fun stack' => run ctx stack' us := by
  simp [run, List.foldlM_append]

end Evaluation

/-- The value of tokens in postfix order. -/
def evaluate (ctx : Decimal.Context) (ts : List Token) : Except Failure Decimal :=
  Evaluation.run ctx [] ts >>= Evaluation.result ctx

end Reckoner
