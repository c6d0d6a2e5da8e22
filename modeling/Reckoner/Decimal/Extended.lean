import Reckoner.Decimal.Notation

/-!
# Decimal — extended numbers

A decimal, an infinity or one of the two kinds of NaN: what a number may be that was not computed here but read.  `ofText?` reads digits with an optional point and an exponent exactly, or one of the four words.
-/

namespace Reckoner.Decimal

inductive Extended where
  | finite (d : Decimal)
  | infinity (negative : Bool)
  | nan
  /-- A NaN that no operation accepts. -/
  | signalingNaN
deriving DecidableEq, Repr

/-! ### Reading -/

def isDigit (c : Char) : Bool := '0' ≤ c && c ≤ '9'

/-- The number written by a list of digits, most significant first. -/
def ofDigits (cs : List Char) : Nat := cs.foldl (fun n c => 10 * n + (c.toNat - 0x30)) 0

/-- Digits with at most one point among them and at least one digit, read exactly: as many places as digits follow the point. -/
def ofPointed? (cs : List Char) : Option (Nat × Nat) :=
  let whole := cs.takeWhile (· ≠ '.')
  let places := (cs.dropWhile (· ≠ '.')).drop 1
  let ds := whole ++ places
  if ds ≠ [] ∧ ds.all isDigit then some (ofDigits ds, places.length) else none

/-- A sign, if one is written, and the rest. -/
def splitSign : List Char → Bool × List Char
  | '-' :: cs => (true, cs)
  | '+' :: cs => (false, cs)
  | cs => (false, cs)

/-- A whole number with an optional sign. -/
def ofSigned? (cs : List Char) : Option Int :=
  let (negative, ds) := splitSign cs
  if ds ≠ [] ∧ ds.all isDigit then
    some (if negative then -(ofDigits ds : Int) else ofDigits ds)
  else none

def isExponentMark (c : Char) : Bool := c == 'E' || c == 'e'

/-- A decimal with an optional exponent.  Exponents whose size has more than eighteen digits are refused. -/
def ofText? (s : String) : Option Decimal := do
  let (negative, cs) := splitSign s.toList
  let (n, places) ← ofPointed? (cs.takeWhile (!isExponentMark ·))
  let e ← match cs.dropWhile (!isExponentMark ·) with
    | [] => some 0
    | _ :: es => ofSigned? es
  let d : Decimal := ⟨negative, n, e - places⟩
  if d.adjusted ≤ maxPrecision ∧ -(2 * maxPrecision : Int) < d.exponent then some d else none

namespace Extended

def ofText? (s : String) : Option Extended :=
  match s with
  | "Infinity" => some (.infinity false)
  | "-Infinity" => some (.infinity true)
  | "NaN" => some .nan
  | "sNaN" => some .signalingNaN
  | _ => (Decimal.ofText? s).map .finite

/-- What a reader sees: the words stand for themselves, and a signalling NaN cannot be shown. -/
def display (ctx : Context) : Extended → Except Signal String
  | .finite d => d.display ctx
  | .infinity false => .ok "Infinity"
  | .infinity true => .ok "-Infinity"
  | .nan => .ok "NaN"
  | .signalingNaN => .error .invalidOperation

end Extended

end Reckoner.Decimal
