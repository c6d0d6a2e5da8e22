import Reckoner.Decimal.Arithmetic

/-!
# Decimal — plain notation and display

`plain` writes every digit of a decimal and never an exponent: trailing zeros after the point are kept, zeros before the point are filled in.  `display` is what a reader sees: rounded to a number of digits, without trailing zeros after the point, and zero as `0` whatever its sign and exponent.
-/

namespace Reckoner.Decimal

/-- The decimal digits of `n`. -/
def digits (n : Nat) : List Char := Nat.toDigits 10 n

/-- The digits of `n` with a point before the last `places`, and at least one digit before the point. -/
def pointed (n places : Nat) : List Char :=
  let ds := digits n
  let padded := List.replicate (places + 1 - ds.length) '0' ++ ds
  padded.take (padded.length - places) ++ '.' :: padded.drop (padded.length - places)

/-- The digits of `n · 10 ^ k`. -/
def filled (n k : Nat) : List Char :=
  if n = 0 then ['0'] else digits n ++ List.replicate k '0'

/-- Every digit, without an exponent. -/
def plain (d : Decimal) : String :=
  let body :=
    if 0 ≤ d.exponent then filled d.coefficient d.exponent.toNat
    else pointed d.coefficient (-d.exponent).toNat
  .ofList (if d.negative then '-' :: body else body)

/-- Rounded to the precision of the context, without trailing zeros after the point. -/
def display (ctx : Context) (d : Decimal) : Except Signal String := do
  let r ← ctx.plus d
  return if r.isZero then "0" else (r.reduceTo 0).plain

example : (⟨false, 250, -2⟩ : Decimal).plain = "2.50" := by decide
example : (⟨true, 5, -3⟩ : Decimal).plain = "-0.005" := by decide
example : (⟨false, 0, -5⟩ : Decimal).plain = "0.00000" := by decide
example : (⟨false, 12, 3⟩ : Decimal).plain = "12000" := by decide

end Reckoner.Decimal
