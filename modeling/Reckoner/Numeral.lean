import Reckoner.Decimal.Extended
import Reckoner.Mistake

/-!
# Numeral — the value of a numeral

ASCII digits with at most one point among them and at least one digit, read exactly.  The empty text is zero, and one line feed at the end is ignored.
-/

namespace Reckoner.Numeral

/-- Without one line feed at the end. -/
def withoutLineFeed (cs : List Char) : List Char :=
  if cs.getLast? = some '\n' then cs.dropLast else cs

/-- The value of a text as a numeral, with as many places as digits follow the point. -/
def value (s : String) : Except Mistake Decimal :=
  if s.isEmpty then .ok (.ofNat 0)
  else match Decimal.ofPointed? (withoutLineFeed s.toList) with
    | some (n, places) => .ok ⟨false, n, -places⟩
    | none => .error (.invalidNumber s)

end Reckoner.Numeral
