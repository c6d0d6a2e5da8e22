import Reckoner.Record
import Reckoner.Token

/-!
# Token — from a record

A token given by the fields `type`, `value` and `applies_to`.  Other fields are ignored.
-/

namespace Reckoner.Token

/-- The class named by the field `type`. -/
def kindField : Option Json → Except Complaint Kind
  | none => .error .missing
  | some (.string s) => (Kind.ofName? s).elim (.error .unknownKind) .ok
  | some _ => .error .unknownKind

/-- A token of a class without a target. -/
def ofText (kind : Kind) (text : String) : Except Complaint Token :=
  match kind with
  | .num => .ok (number text)
  | .op =>
    if text = "%" then .ok (percent none)
    else (BinOp.ofSymbol? text).elim (.error (.unknownOperator text)) (.ok ∘ op)
  | .paren =>
    if text = "(" then .ok lparen
    else if text = ")" then .ok rparen
    else .error (.unknownParenthesis text)

/-- Marks a token, which has to be written as a percent sign. -/
def mark (t : Token) (o : BinOp) : Option Token :=
  match t with
  | num n => if h : n.text = "%" then some (num ⟨n.text, some o, fun g => absurd h g⟩) else none
  | percent _ => some (percent (some o))
  | _ => none

/-- A token of a class, with a target if one is given. -/
def ofParts (kind : Kind) (text : String) (target : Option String) : Except Complaint Token := do
  let t ← ofText kind text
  match target with
  | none => return t
  | some s => ((BinOp.ofSymbol? s).bind t.mark).elim (.error (.invalidTarget s)) .ok

/-- The token of a record. -/
def ofRecord (fields : List (String × Json)) : Checked Token :=
  let kind := Checked.field "type" (kindField (Json.lookup fields "type"))
  let value := Checked.field "value" (Complaint.string (Json.lookup fields "value"))
  let target := Checked.field "applies_to"
    (Complaint.optionalString (Json.lookup fields "applies_to"))
  match kind.zip (value.zip target) with
  | .error fs => .error fs
  | .ok (kind, value, target) => Checked.field "" (ofParts kind value target)

end Reckoner.Token
