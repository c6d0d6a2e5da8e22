import Reckoner.Text.Quoted

/-!
# Terminal — encodings

What is shown on a terminal whose encoding does not hold every character.  A text that can be encoded is shown as it is; otherwise the multiplication and division signs get their ASCII spelling and every other character outside the encoding becomes a question mark.  Notes spell a character outside the encoding by its code point.
-/

namespace Reckoner.Terminal

inductive Encoding where
  | utf8
  | ascii
  | latin1
deriving DecidableEq, Repr

namespace Encoding

def ofName? : String → Option Encoding
  | "utf-8" => some utf8
  | "ascii" => some ascii
  | "latin-1" => some latin1
  | _ => none

def name : Encoding → String
  | utf8 => "utf-8"
  | ascii => "ascii"
  | latin1 => "latin-1"

/-- The code points below this can be encoded. -/
def range : Encoding → Nat
  | utf8 => 0x110000
  | ascii => 0x80
  | latin1 => 0x100

/-- The character can be encoded.  A `Char` is never half of a surrogate pair, so UTF-8 holds every one; a text with a lone half, which UTF-8 does not hold, is no `String`. -/
def holds : Encoding → Char → Bool
  | utf8, _ => true
  | ascii, c => c.toNat < 0x80
  | latin1, c => c.toNat < 0x100

/-- The text can be encoded. -/
def encodes (e : Encoding) (s : String) : Bool := s.toList.all e.holds

/-- What stands for a character in a text that cannot be encoded. -/
def substitute (e : Encoding) (c : Char) : Char :=
  if c = '×' then '*' else if c = '÷' then '/' else if e.holds c then c else '?'

/-- The text as it is shown. -/
def shown (e : Encoding) (s : String) : String :=
  if e.encodes s then s else .ofList (s.toList.map e.substitute)

/-- The text as it is noted. -/
def noted (e : Encoding) (s : String) : String :=
  .ofList (s.toList.flatMap fun c => if e.holds c then [c] else Text.escapedCodePoint c.toNat)

end Encoding

end Reckoner.Terminal
