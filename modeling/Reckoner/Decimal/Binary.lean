import Reckoner.Decimal.Basic

/-!
# Decimal — the nearest binary number

A number of 53 binary digits is written `significand * 2 ^ exponent`, with exponents from `-1074` up.  `Binary.nearest` is the one nearest to the size of a decimal, a half going to the even significand; `whole?` says whether it is whole, and which number it is.
-/

namespace Reckoner

structure Binary where
  significand : Nat
  exponent : Int
deriving DecidableEq, Repr

namespace Binary

/-- The binary digits of a significand. -/
def precision : Nat := 53

/-- The least exponent. -/
def least : Int := -1074

/-- The leading digit of every number lies below this exponent. -/
def limit : Int := 1024

/-- The quotient of `n` and `d` to the nearest whole number, a half to the even one. -/
def halfEven (n d : Nat) : Nat :=
  let q := n / d
  if 2 * (n % d) < d ∨ (2 * (n % d) = d ∧ q % 2 = 0) then q else q + 1

/-- The exponent of the leading binary digit of `n / d`. -/
def leading (n d : Nat) : Int :=
  let e : Int := n.log2 - d.log2
  if d <<< e.toNat ≤ n <<< (-e).toNat then e else e - 1

/-- The number nearest to `n / d`. -/
def ofRatio (n d : Nat) : Binary :=
  let e := max (leading n d - (precision - 1)) least
  ⟨halfEven (n <<< (-e).toNat) (d <<< e.toNat), e⟩

/-- The number is not too great to be one. -/
def isFinite (b : Binary) : Bool := b.significand == 0 || b.significand.log2 + b.exponent < limit

/-- The number nearest to the size of a decimal, unless that is too great. -/
def nearest (d : Decimal) : Option Binary :=
  if d.coefficient = 0 ∨ d.adjusted < 2 * least then some ⟨0, 0⟩
  else if limit < d.adjusted then none
  else
    let b := ofRatio (d.coefficient * Decimal.tenPow d.exponent.toNat)
      (Decimal.tenPow (-d.exponent).toNat)
    if b.isFinite then some b else none

/-- The number, if it is whole. -/
def whole? (b : Binary) : Option Nat :=
  let n := b.significand <<< b.exponent.toNat
  let k := (-b.exponent).toNat
  if n % (1 <<< k) = 0 then some (n >>> k) else none

/-- Above `2 ^ 53` only every other whole number is one. -/
example : (nearest ⟨false, 9007199254740993, 0⟩).bind whole? = some 9007199254740992 := by decide
example : (nearest ⟨false, 605, -1⟩).bind whole? = none := by decide
example : (nearest ⟨false, 600000000000000000001, -19⟩).bind whole? = some 60 := by decide

end Binary

end Reckoner
