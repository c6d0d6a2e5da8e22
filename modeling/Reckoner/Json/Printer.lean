import Reckoner.Json

/-!
# Json — printing

Indented text: one field or item to a line, two spaces deeper than what encloses it.  In strings the quote, the backslash and the controls below the space are escaped, everything else stands for itself.
-/

namespace Reckoner.Json

/-- One character between quotes. -/
def escaped (c : Char) : List Char :=
  if c = '\x22' then ['\\', '\x22']
  else if c = '\\' then ['\\', '\\']
  else if c = '\x08' then ['\\', 'b']
  else if c = '\t' then ['\\', 't']
  else if c = '\n' then ['\\', 'n']
  else if c = '\x0c' then ['\\', 'f']
  else if c = '\r' then ['\\', 'r']
  else if c.toNat < 0x20 then '\\' :: 'u' :: Text.hex 4 c.toNat
  else [c]

def quoted (s : String) : String := .ofList ('\x22' :: s.toList.flatMap escaped ++ ['\x22'])

/-- The lines of a bracket around items that are printed already. -/
def bracketed (left right : String) (indent : String) (items : List String) : String :=
  if items.isEmpty then left ++ right
  else left ++ "\n" ++ indent ++ "  " ++ (",\n" ++ indent ++ "  ").intercalate items
    ++ "\n" ++ indent ++ right

mutual

/-- The text of a value whose lines are indented by `indent`. -/
def render (indent : String) : Json → String
  | .null => "null"
  | .bool b => if b then "true" else "false"
  | .integer n => (Decimal.ofInt n).plain
  | .number (.finite d) => d.plain
  | .number (.infinity negative) => if negative then "-Infinity" else "Infinity"
  | .number _ => "NaN"
  | .string s => quoted s
  | .array items => bracketed "[" "]" indent (renderItems (indent ++ "  ") items)
  | .object fields => bracketed "\x7b" "\x7d" indent (renderFields (indent ++ "  ") fields)

def renderItems (indent : String) : List Json → List String
  | [] => []
  | v :: vs => render indent v :: renderItems indent vs

def renderFields (indent : String) : List (String × Json) → List String
  | [] => []
  | (name, v) :: fs => (quoted name ++ ": " ++ render indent v) :: renderFields indent fs

end

/-- The text of a value. -/
def pretty (v : Json) : String := render "" v

end Reckoner.Json
