import Reckoner.Json

/-!
# Record — checking fields

A record comes as named values of any kind.  Checking it either gives the typed value or every fault found, field by field in the order they are declared; a relation between fields is checked once every field is right.
-/

namespace Reckoner

/-- What is wrong with a value. -/
inductive Complaint where
  | missing
  | notString
  | notInteger
  /-- A string that is no whole number. -/
  | unreadableInteger
  /-- A number that is not whole. -/
  | fractional
  /-- An infinity or no number at all. -/
  | notFinite
  /-- A number of more digits than are read. -/
  | oversized
  | tooSmall (least : Nat)
  | unknownKind
  | unknownOperator (text : String)
  | unknownParenthesis (text : String)
  /-- A mark on a token that carries none, or one that is no operator. -/
  | invalidTarget (text : String)
  /-- More digits to show than are computed. -/
  | displayBeyondPrecision
deriving DecidableEq, Repr

def Complaint.message : Complaint → String
  | missing => "Field required"
  | notString => "Input should be a valid string"
  | notInteger => "Input should be a valid integer"
  | unreadableInteger => "Input should be a valid integer, unable to parse string as an integer"
  | fractional => "Input should be a valid integer, got a number with a fractional part"
  | notFinite => "Input should be a finite number"
  | oversized => "Unable to parse input string as an integer, exceeded maximum size"
  | tooSmall least => s!"Input should be greater than or equal to {least}"
  | unknownKind => "Input should be 'num', 'op' or 'paren'"
  | unknownOperator text => s!"Value error, Unknown operator: {Text.quoted text}"
  | unknownParenthesis text => s!"Value error, Unknown parenthesis: {Text.quoted text}"
  | invalidTarget text => s!"Value error, Invalid percent target: {Text.quoted text}"
  | displayBeyondPrecision => "Value error, display_digits cannot exceed precision"

/-- A complaint about a field, or about the record as a whole under the empty name. -/
structure Fault where
  field : String
  complaint : Complaint
deriving DecidableEq, Repr

namespace Fault

def message (f : Fault) : String := f.field ++ ": " ++ f.complaint.message

/-- All faults on one line. -/
def report (fs : List Fault) : String := "; ".intercalate (fs.map message)

end Fault

/-- A checked value, or all the faults found. -/
abbrev Checked (α : Type) := Except (List Fault) α

namespace Checked

/-- The check of one field. -/
def field {α : Type} (name : String) (r : Except Complaint α) : Checked α :=
  r.mapError fun c => [⟨name, c⟩]

/-- A complaint about the record as a whole. -/
def whole {α : Type} (c : Complaint) : Checked α := .error [⟨"", c⟩]

/-- Two checks; the faults of both count. -/
def zip {α β : Type} : Checked α → Checked β → Checked (α × β)
  | .ok a, .ok b => .ok (a, b)
  | .ok _, .error gs => .error gs
  | .error fs, .ok _ => .error fs
  | .error fs, .error gs => .error (fs ++ gs)

end Checked

namespace Complaint

/-- A required string. -/
def string : Option Json → Except Complaint String
  | some (.string s) => .ok s
  | some _ => .error .notString
  | none => .error .missing

/-- A string that may be absent or null. -/
def optionalString : Option Json → Except Complaint (Option String)
  | some (.string s) => .ok (some s)
  | some .null | none => .ok none
  | some _ => .error .notString

end Complaint

end Reckoner
