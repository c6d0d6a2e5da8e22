import Reckoner.Evaluation
import Reckoner.Proofs.Grammar.Postfix

/-!
# Grammar — what an expression means

`Phrase.meaning` computes a derivation tree from the operands up, the left one before the right one, in any numbers with the four operations (`Arithmetic`).  It looks at a phrase and, for percentages, at the operand to the left of it, and at nothing else: `-x` is `0 - x`, `a % b` is `a · (b ÷ 100)`, and `n%` is `n ÷ 100`, taken of the left operand behind `+` and `-`.

`evaluate_tokens`: the stack machine computes this meaning in the decimals of its context, failures included, if every percent sign without a right operand is `Anchored`.  By `run_postorder` a phrase puts its meaning on top of the stack and leaves the rest of the stack as it was.
-/

namespace Reckoner

/-- Numbers to compute in. -/
structure Arithmetic (α : Type) where
  numeral : String → Except Failure α
  hundred : α
  apply : BinOp → α → α → Except Failure α

namespace Arithmetic

/-- The decimals of a context. -/
def decimals (ctx : Decimal.Context) : Arithmetic Decimal where
  numeral text := (Numeral.value text).mapError .mistake
  hundred := .ofNat 100
  apply := Evaluation.apply ctx

variable {α : Type}

/-- `-x` -/
def negate (A : Arithmetic α) (x : α) : Except Failure α := do
  let zero ← A.numeral "0"
  A.apply .sub zero x

/-- `x ÷ 100` -/
def hundredth (A : Arithmetic α) (x : α) : Except Failure α := A.apply .div x A.hundred

/-- `a % b` -/
def share (A : Arithmetic α) (a b : α) : Except Failure α := do
  let part ← A.hundredth b
  A.apply .mul a part

/-- `x %`: behind the left operand of a `+` or `-` that part of it, else the part itself. -/
def percent (A : Arithmetic α) (left : Option (BinOp × α)) (x : α) : Except Failure α := do
  let part ← A.hundredth x
  match left with
  | some (.add, a) | some (.sub, a) => A.apply .mul a part
  | _ => .ok part

end Arithmetic

namespace Phrase

/-- The value of a phrase.  `left` is the binary operator directly before it with the value of its left operand. -/
def meaning {α : Type} (A : Arithmetic α) {k : Tier} {n : Next} (left : Option (BinOp × α)) :
    Phrase k n → Except Failure α
  | numeral text => A.numeral text
  | group e => e.meaning A none
  | ofAtom a => a.meaning A left
  | negation u => do
    let x ← u.meaning A none
    A.negate x
  | ofSigned u => u.meaning A left
  | share q u => do
    let a ← q.meaning A left
    let b ← u.meaning A none
    A.share a b
  | percent q => do
    let x ← q.meaning A left
    A.percent (if q.isNumeral then left else none) x
  | ofPercentage q => q.meaning A left
  | product o _ l r | sum o _ l r => do
    let a ← l.meaning A left
    let b ← r.meaning A (some (o, a))
    A.apply o a b
  | ofProduct t => t.meaning A left

/-- Every percent sign without a right operand follows a number that is itself the right operand of a binary operator, or an operand with nothing but `(` before it.  `leading` says that nothing but `(` stands before the phrase, `before` is the binary operator directly before it. -/
def Anchored {k : Tier} {n : Next} (leading : Bool) (before : Option BinOp) : Phrase k n → Prop
  | numeral _ => True
  | group e => e.Anchored leading none
  | ofAtom a => a.Anchored leading before
  | negation u => u.Anchored false none
  | ofSigned u => u.Anchored leading before
  | share q u => q.Anchored leading before ∧ u.Anchored false none
  | percent q => q.Anchored leading before ∧ (q.isNumeral ∧ before.isSome ∨ leading)
  | ofPercentage q => q.Anchored leading before
  | product o _ l r | sum o _ l r => l.Anchored leading before ∧ r.Anchored false (some o)
  | ofProduct t => t.Anchored leading before

/-- Without percent signs nothing has to be anchored. -/
theorem anchored_of_percent_notMem {k : Tier} {n : Next} (t : Phrase k n)
    (h : .percent none ∉ t.tokens) (leading : Bool) (before : Option BinOp) :
    t.Anchored leading before := by
  induction t generalizing leading before with
  | numeral => trivial
  | group _ ih => exact ih (fun hm => h (by simp [tokens, hm])) leading none
  | ofAtom _ ih | ofSigned _ ih | ofPercentage _ ih | ofProduct _ ih => exact ih h leading before
  | negation _ ih => exact ih (fun hm => h (by simp [tokens, hm])) false none
  | share | percent => exact absurd (by simp [tokens]) h
  | product o _ _ _ ihl ihr | sum o _ _ _ ihl ihr =>
    exact ⟨ihl (fun hm => h (by simp [tokens, hm])) leading before,
      ihr (fun hm => h (by simp [tokens, hm])) false (some o)⟩

/-- The stack below a phrase: empty if nothing but parentheses precedes the phrase, and with the left operand on top if a binary operator does. -/
structure Below (leading : Bool) (left : Option (BinOp × Decimal)) (stack : List Decimal) :
    Prop where
  empty : leading = true → stack = []
  top : ∀ o a, left = some (o, a) → stack.head? = some a

theorem Below.inner (stack : List Decimal) : Below false none stack :=
  ⟨fun h => absurd h (by decide), fun _ _ h => absurd h (by simp)⟩

theorem Below.right (o : BinOp) (a : Decimal) (stack : List Decimal) :
    Below false (some (o, a)) (a :: stack) :=
  ⟨fun h => absurd h (by decide), fun _ _ h => by cases h; rfl⟩

open Evaluation

variable {ctx : Decimal.Context} {stack : List Decimal}

theorem step_op (o : BinOp) (a b : Decimal) :
    step ctx (b :: a :: stack) (.op o)
      = (· :: stack) <$> (Arithmetic.decimals ctx).apply o a b := rfl

theorem step_share (a b : Decimal) :
    step ctx (b :: a :: stack) (.percent none)
      = (· :: stack) <$> (Arithmetic.decimals ctx).share a b := by
  rw [Arithmetic.share, map_bind]
  rfl

/-- A percent sign behind an anchored operand `x`, which is `numeral` or not. -/
theorem step_percent {leading numeral : Bool} {left : Option (BinOp × Decimal)} (x : Decimal)
    (hs : Below leading left stack) (ha : numeral ∧ (left.map Prod.fst).isSome ∨ leading) :
    step ctx (x :: stack) (.percent (if numeral then left.map Prod.fst else none))
      = (· :: stack) <$> (Arithmetic.decimals ctx).percent (if numeral then left else none) x := by
  rw [Arithmetic.percent, map_bind]
  refine congrArg (computed (ctx.div x (.ofNat 100)) >>= ·) (funext fun part => ?_)
  cases left with
  | none =>
    obtain rfl := hs.empty (ha.resolve_left (by simp))
    cases numeral <;> rfl
  | some l =>
    obtain ⟨o, a⟩ := l
    -- something lies below, so the percent sign is marked, and finds its left operand on top
    have htop := hs.top o a rfl
    cases stack with
    | nil => cases htop
    | cons b below =>
      cases htop
      obtain rfl : numeral = true := by
        rcases ha with h | h
        · exact h.1
        · cases hs.empty h
      cases o <;> rfl

/-- **A phrase puts its meaning on the stack** and leaves what is below as it was. -/
theorem run_postorder {k : Tier} {n : Next} (t : Phrase k n) {leading : Bool}
    (left : Option (BinOp × Decimal)) (ha : t.Anchored leading (left.map Prod.fst))
    (hs : Below leading left stack) :
    run ctx stack (t.postorder (left.map Prod.fst))
      = (· :: stack) <$> t.meaning (.decimals ctx) left := by
  induction t generalizing leading left stack with
  | numeral text => exact run_singleton ..
  | group e ih => exact ih none ha ⟨hs.empty, fun _ _ h => by cases h⟩
  | ofAtom a ih => exact ih left ha hs
  | negation u ih =>
    -- the zero lies below the operand, which cannot see it
    have hz : step ctx stack (.number "0") = .ok (.ofNat 0 :: stack) := rfl
    have hu := ih none ha (.inner (.ofNat 0 :: stack))
    simp only [Option.map_none] at hu
    rw [postorder, run_cons, hz]
    simp only [ok_bind, run_append, hu, bind_map_left, run_singleton, step_op, meaning, map_bind]
    rfl
  | ofSigned u ih => exact ih left ha hs
  | share q u ihq ihu =>
    have hu := fun a => ihu none ha.2 (.inner (a :: stack))
    simp only [Option.map_none] at hu
    simp only [postorder, run_append, ihq left ha.1 hs, bind_map_left, hu, run_singleton, step_share,
      meaning, map_bind, bind_assoc]
  | percent q ih =>
    simp only [postorder, run_append, ih left ha.1 hs, bind_map_left, run_singleton, meaning, map_bind,
      step_percent _ hs ha.2]
  | ofPercentage q ih => exact ih left ha hs
  | product o ho l r ihl ihr | sum o ho l r ihl ihr =>
    -- the right operand is computed right above the value of the left one
    have hr := fun a => ihr (some (o, a)) ha.2 (.right o a stack)
    simp only [Option.map_some] at hr
    simp only [postorder, run_append, ihl left ha.1 hs, bind_map_left, hr, run_singleton, step_op,
      meaning, map_bind, bind_assoc]
  | ofProduct t ih => exact ih left ha hs

/-- At the end the one value left is rounded. -/
theorem evaluate_postorder (ctx : Decimal.Context) (e : Infix) (he : e.Anchored true none) :
    evaluate ctx (e.postorder none)
      = (e.meaning (.decimals ctx) none >>= fun v => computed (ctx.plus v)) := by
  have h : run ctx [] (e.postorder none) = ([·]) <$> e.meaning (.decimals ctx) none :=
    e.run_postorder none he ⟨fun _ => rfl, fun _ _ h => by cases h⟩
  rw [evaluate, h, bind_map_left]
  rfl

/-- **The stack machine computes the meaning.**  Every expression whose percent signs are anchored has the value, or fails with the failure, that its derivation tree means, rounded once more at the end. -/
theorem evaluate_tokens (ctx : Decimal.Context) (e : Infix) (he : e.Anchored true none) :
    ((Token.toPostfix e.tokens).mapError .mistake >>= evaluate ctx)
      = (e.meaning (.decimals ctx) none >>= fun v => computed (ctx.plus v)) := by
  rw [Token.toPostfix, e.toPostfixFrom_tokens, mapError_ok, ok_bind]
  exact e.evaluate_postorder ctx he

/-- `(200 + 10%) × -3` -/
def discounted : Infix :=
  .ofProduct (.product .mul BinOp.precedence_mul
    (.ofPercentage (.ofSigned (.ofAtom (.group (.sum .add BinOp.precedence_add
      (.ofProduct (.ofPercentage (.ofSigned (.ofAtom (.numeral "200")))))
      (.ofPercentage (.percent (.ofSigned (.ofAtom (.numeral "10"))))))))))
    (.ofSigned (.negation (.ofAtom (.numeral "3")))))

theorem evaluate_discounted :
    discounted.Anchored true none ∧
      ((Token.toPostfix discounted.tokens).mapError .mistake >>= evaluate { precision := 80 })
        = .ok ⟨true, 6600, -1⟩ := by
  have h : discounted.Anchored true none := by simp [discounted, Anchored, isNumeral]
  exact ⟨h, (evaluate_tokens { precision := 80 } discounted h).trans (by rfl)⟩

end Phrase

end Reckoner
