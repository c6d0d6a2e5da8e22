import Reckoner.Decimal.Basic

/-!
# Decimal — rounding to a precision

An operation computes its exact result and rounds it once: to the precision of the context, a half away from zero, with exponents between `-999999` and `999999`.  Below the least exponent digits are given up until the result is a multiple of `10 ^ least`, above the greatest the operation signals overflow.
-/

namespace Reckoner.Decimal

/-- What an operation reports in place of a result. -/
inductive Signal where
  /-- The leading digit lies above the greatest exponent. -/
  | overflow
  /-- The operation has no result, as `0 ÷ 0`. -/
  | invalidOperation
  /-- A finite number other than zero is divided by zero. -/
  | divisionByZero
  /-- No context has the precision asked for. -/
  | precisionRange
  /-- The precision asked for does not fit 64 bits. -/
  | precisionSize
deriving DecidableEq, Repr

/-- The greatest exponent of a leading digit. -/
def maxExponent : Int := 999999

/-- The least exponent of a leading digit at full precision. -/
def minExponent : Int := -999999

/-- The number of significant digits an operation keeps. -/
structure Context where
  precision : Nat
  precision_pos : 0 < precision := by decide
deriving DecidableEq, Repr

/-- The greatest precision a caller may ask for. -/
def maxPrecision : Nat := 999999999999999999

/-- The first number too great for 64 bits with a sign. -/
def wordLimit : Int := 1 <<< 63

/-- The context of a precision asked for, which has to lie between 1 and `maxPrecision`. -/
def Context.ofInt (p : Int) : Except Signal Context :=
  if h : 0 < p.toNat ∧ p.toNat ≤ maxPrecision then .ok ⟨p.toNat, h.1⟩
  else if -wordLimit ≤ p ∧ p < wordLimit then .error .precisionRange
  else .error .precisionSize

namespace Context

/-- The least exponent of a result. -/
def least (ctx : Context) : Int := minExponent - ctx.precision + 1

/-- The exponent below which the digits of `d` do not fit the context. -/
def quantum (ctx : Context) (d : Decimal) : Int :=
  max (d.exponent + digitCount d.coefficient - ctx.precision) ctx.least

end Context

/-- The quotient of `n` and `10 ^ k` to the nearest whole number, a half upwards. -/
def halfUp (n k : Nat) : Nat :=
  if digitCount n < k then 0 else (2 * n + tenPow k) / (2 * tenPow k)

/-- Gives up the digits of `d` below `q`; a carry into a digit too many moves the exponent. -/
def Context.quantize (ctx : Context) (d : Decimal) (q : Int) : Decimal :=
  let c := halfUp d.coefficient (q - d.exponent).toNat
  if c < tenPow ctx.precision then { d with coefficient := c, exponent := q }
  else { d with coefficient := c / 10, exponent := q + 1 }

/-- The digits of `d` that fit the context. -/
def Context.fit (ctx : Context) (d : Decimal) : Decimal :=
  if ctx.quantum d ≤ d.exponent then d else ctx.quantize d (ctx.quantum d)

/-- Rounds an exact result.  Zero keeps its sign, and its exponent as far as the range admits it. -/
def Context.round (ctx : Context) (d : Decimal) : Except Signal Decimal :=
  if d.coefficient = 0 then
    .ok { d with exponent := max ctx.least (min d.exponent maxExponent) }
  else if maxExponent < (ctx.fit d).adjusted then .error .overflow
  else .ok (ctx.fit d)

/-- The shortcut for short numbers is no rule of its own: less than a tenth of the divisor rounds to zero. -/
theorem halfUp_eq (n k : Nat) : halfUp n k = (2 * n + tenPow k) / (2 * tenPow k) := by
  simp only [halfUp]
  split
  · next h =>
    have h₁ : n < tenPow (digitCount n) := lt_tenPow_digitCount n
    have h₂ : tenPow (digitCount n + 1) ≤ tenPow k := tenPow_le_tenPow h
    rw [tenPow_succ] at h₂
    exact (Nat.div_eq_of_lt (by omega)).symm
  · rfl

/-- The rounded quotient is within half a unit, and a half goes up. -/
theorem halfUp_near (n k : Nat) :
    2 * (halfUp n k * tenPow k) ≤ 2 * n + tenPow k
      ∧ 2 * n < 2 * (halfUp n k * tenPow k) + tenPow k := by
  rw [halfUp_eq]
  have hpos : 0 < tenPow k := tenPow_pos k
  have h₁ := Nat.div_add_mod (2 * n + tenPow k) (2 * tenPow k)
  have h₂ := Nat.mod_lt (2 * n + tenPow k) (show 0 < 2 * tenPow k by omega)
  have h₃ : 2 * ((2 * n + tenPow k) / (2 * tenPow k) * tenPow k)
      = 2 * tenPow k * ((2 * n + tenPow k) / (2 * tenPow k)) := by
    rw [Nat.mul_comm ((2 * n + tenPow k) / (2 * tenPow k)) (tenPow k), Nat.mul_assoc]
  omega

end Reckoner.Decimal
