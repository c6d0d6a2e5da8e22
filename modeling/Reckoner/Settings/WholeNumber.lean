import Reckoner.Decimal.Binary
import Reckoner.Decimal.Extended
import Reckoner.Record
import Reckoner.Text.Blank

/-!
# Settings — whole numbers

A setting that is a whole number may be given as a number with no places after the point, or as a text.  A text may have white space around it, one sign, zeros and underscores in front, single underscores between its digits, and a point and zeros behind them.
-/

namespace Reckoner

/-! ### Texts -/

namespace WholeNumber

def isPositiveDigit (c : Char) : Bool := '1' ≤ c && c ≤ '9'

/-- The digits of a number without its sign. -/
def unsigned : List Char → List Char
  | '-' :: cs => cs
  | cs => cs

/-- The plainest spelling: an optional minus, and a zero or digits that do not begin with one. -/
def plain? (cs : List Char) : Option Int :=
  let ds := unsigned cs
  if ds = ['0'] ∨ (ds.head?.any isPositiveDigit ∧ ds.all Decimal.isDigit) then
    let n := Decimal.ofDigits ds
    some (if ds.length < cs.length then -(n : Int) else n)
  else none

/-- The most characters of a sign and digits that are read. -/
def longest : Nat := 4300

/-- The text begins with more digits than are read. -/
def isOverlong (cs : List Char) : Bool :=
  let ds := (unsigned cs).takeWhile Decimal.isDigit
  ds.head?.any isPositiveDigit && longest < ds.length + (cs.length - (unsigned cs).length)

/-- Without the zeros and underscores in front; `last` is the one just passed, which stays if nothing or a point follows. -/
def afterZeros (last : Char) : List Char → Option (List Char)
  | [] => some [last]
  | c :: cs =>
    if c = '0' ∨ c = '_' then afterZeros c cs
    else if c = '.' then some (last :: c :: cs)
    else if isPositiveDigit c ∨ c = '-' then some (c :: cs)
    else none

/-- A number that begins with a zero, without the zeros in front; any other number as it is. -/
def withoutZeros : List Char → Option (List Char)
  | [] => none
  | c :: cs =>
    if c = '0' then afterZeros c cs
    else if isPositiveDigit c ∨ c = '-' then some (c :: cs)
    else none

/-- Without a plus in front of a number. -/
def withoutPlus : List Char → Option (List Char)
  | '+' :: '-' :: _ => none
  | '+' :: cs => some cs
  | cs => some cs

/-- Without a point and zeros at the end. -/
def withoutPlaces (cs : List Char) : List Char :=
  let places := (cs.dropWhile (· ≠ '.')).drop 1
  if places ≠ [] ∧ places.all (· == '0') then cs.takeWhile (· ≠ '.') else cs

/-- Two underscores stand side by side. -/
def hasDoubledUnderscore (cs : List Char) : Bool :=
  (cs.zip (cs.drop 1)).contains ('_', '_')

/-- Without underscores, if they all stand apart and none at an end. -/
def withoutGrouping (cs : List Char) : List Char :=
  if cs.head? = some '_' ∨ cs.getLast? = some '_' ∨ hasDoubledUnderscore cs then cs
  else cs.filter (· ≠ '_')

/-- The plainest spelling of a text. -/
def simplified (cs : List Char) : Option (List Char) := do
  let cs ← withoutPlus (Text.trimmedList Text.isWhiteSpace cs)
  return withoutGrouping (withoutPlaces (← withoutZeros cs))

/-- The number of a plain spelling. -/
def ofPlain (cs : List Char) : Except Complaint Int :=
  if isOverlong cs then .error .oversized
  else (plain? cs).elim (.error .unreadableInteger) .ok

/-- The whole number a text writes. -/
def ofText (s : String) : Except Complaint Int :=
  match ofPlain s.toList with
  | .error .unreadableInteger =>
    (simplified s.toList).elim (.error .unreadableInteger) ofPlain
  | r => r

example : plain? "-60".toList = some (-60) ∧ plain? "060".toList = none := by decide
example : simplified " +0_1_000.00 ".toList = some "1000".toList := by decide
example : simplified "60.".toList = some "60.".toList ∧ simplified "0+1".toList = none := by decide

/-! ### Numbers -/

/-- A number that is not an integer is read as the nearest binary number, which has to be whole and to fit 64 bits. -/
def ofNumber : Decimal.Extended → Except Complaint Int
  | .finite d =>
    match Binary.nearest d with
    | none => .error .notFinite
    | some b =>
      match b.whole? with
      | none => .error .fractional
      | some n =>
        if n < Decimal.wordLimit then .ok (if d.negative then -(n : Int) else n)
        else .error .oversized
  | _ => .error .notFinite

end WholeNumber

/-- A whole number: a number, a truth value as one or zero, or a text. -/
def Complaint.integer : Json → Except Complaint Int
  | .integer n => .ok n
  | .number x => WholeNumber.ofNumber x
  | .bool b => .ok (if b then 1 else 0)
  | .string s => WholeNumber.ofText s
  | _ => .error .notInteger

/-- A whole number with a lower bound. -/
def Complaint.atLeast (least : Nat) (v : Json) : Except Complaint { n : Nat // least ≤ n } := do
  let n ← Complaint.integer v
  if h : least ≤ n.toNat ∧ 0 ≤ n then return ⟨n.toNat, h.1⟩ else throw (.tooSmall least)

end Reckoner
