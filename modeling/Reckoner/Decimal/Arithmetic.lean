import Reckoner.Decimal.Rounding

/-!
# Decimal — arithmetic

The four operations and the rounding of a single number.  Each computes with whole numbers and rounds once.  An exact result keeps the exponent its operands suggest: the lesser of the two for a sum, their sum for a product, their difference for a quotient.
-/

namespace Reckoner.Decimal.Context

/-- The sum.  It is a negative zero only if both operands are. -/
def add (ctx : Context) (a b : Decimal) : Except Signal Decimal :=
  let e := min a.exponent b.exponent
  let s := a.units e + b.units e
  ctx.round
    { negative := if s = 0 then a.negative && b.negative else s < 0
      coefficient := s.natAbs
      exponent := e }

/-- The difference. -/
def sub (ctx : Context) (a b : Decimal) : Except Signal Decimal := ctx.add a b.neg

/-- The product. -/
def mul (ctx : Context) (a b : Decimal) : Except Signal Decimal :=
  ctx.round
    { negative := a.negative != b.negative
      coefficient := a.coefficient * b.coefficient
      exponent := a.exponent + b.exponent }

/-- The whole quotient of the coefficients, `a` moved by `shift` places so that it has more digits than the context keeps, and whether anything remains.  A half goes up, so the remainder cannot change the rounding. -/
def quotient (ctx : Context) (a b : Decimal) : Decimal × Bool :=
  let shift : Int := digitCount b.coefficient - digitCount a.coefficient + ctx.precision + 1
  let n := a.coefficient * tenPow shift.toNat
  let m := b.coefficient * tenPow (-shift).toNat
  ({ negative := a.negative != b.negative
     coefficient := n / m
     exponent := a.exponent - b.exponent - shift }, n % m = 0)

/-- The quotient. -/
def div (ctx : Context) (a b : Decimal) : Except Signal Decimal :=
  if b.isZero then .error (if a.isZero then .invalidOperation else .divisionByZero)
  else if a.isZero then
    ctx.round ⟨a.negative != b.negative, 0, a.exponent - b.exponent⟩
  else
    let (q, exact) := ctx.quotient a b
    ctx.round (if exact then q.reduceTo (a.exponent - b.exponent) else q)

/-- The number itself, rounded; a zero loses its sign. -/
def plus (ctx : Context) (a : Decimal) : Except Signal Decimal :=
  ctx.round (if a.isZero then { a with negative := false } else a)

end Reckoner.Decimal.Context
