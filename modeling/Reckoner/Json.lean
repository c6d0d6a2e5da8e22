import Reckoner.Decimal.Extended
import Reckoner.Text.Quoted

/-!
# Json — values

The values of the interchange format, with exact numbers; one written with a point or an exponent is kept apart from the integers even when it is whole.  An object keeps its fields in the order written; of two fields of one name the later counts.
-/

namespace Reckoner

inductive Json where
  | null
  | bool (b : Bool)
  | integer (n : Int)
  /-- A number written with a point or an exponent, or by a word. -/
  | number (x : Decimal.Extended)
  | string (s : String)
  | array (items : List Json)
  | object (fields : List (String × Json))

namespace Json

/-- A natural number. -/
def ofNat (n : Nat) : Json := .integer n

/-- A string, or null for none. -/
def ofString? (s : Option String) : Json := s.elim .null .string

/-- The value of the last field of that name. -/
def lookup (fields : List (String × Json)) (name : String) : Option Json :=
  (fields.reverse.find? (·.1 == name)).map (·.2)

end Json

end Reckoner
