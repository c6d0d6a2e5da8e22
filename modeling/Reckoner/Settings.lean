import Reckoner.Decimal.Rounding

/-!
# Settings — what a calculator can be told

How precisely to compute, how many digits to show, how to word the two kinds of failure, how much to log, and how the service calls itself.  The bounds are part of the type.
-/

namespace Reckoner

structure Settings where
  /-- The significant digits of every operation. -/
  precision : Nat := 80
  /-- The significant digits of a displayed result. -/
  displayDigits : Nat := 15
  /-- Shown in place of a result after a division by zero. -/
  divisionByZeroLabel : String := "Error"
  /-- Shown in place of a result after any other mistake. -/
  malformedLabel : String := "Malformed"
  /-- The name of the least level logged, in any case. -/
  logLevel : String := "INFO"
  appTitle : String := "DeciCalc"
  appVersion : String := "0.1.0"
  fifty_le_precision : 50 ≤ precision := by decide
  one_le_displayDigits : 1 ≤ displayDigits := by decide
  displayDigits_le_precision : displayDigits ≤ precision := by decide
deriving DecidableEq, Repr

namespace Settings

instance : Inhabited Settings := ⟨{}⟩

/-- The context that rounds results for display, if there is one of so many digits. -/
def display (s : Settings) : Except Decimal.Signal Decimal.Context :=
  Decimal.Context.ofInt s.displayDigits

/-- The context results are computed in. -/
def working (s : Settings) : Decimal.Context :=
  ⟨s.precision, Nat.lt_of_lt_of_le (by decide) s.fifty_le_precision⟩

end Settings

end Reckoner
