import Reckoner.Text.Printable

/-!
# Text — quoted

How a message quotes a piece of text: between apostrophes, or between double quotes when the text holds an apostrophe and no double quote.  The backslash and the mark in use are escaped with a backslash, tab, newline and carriage return by their letter, any other unprintable character by its code point in two, four or eight hexadecimal digits.
-/

namespace Reckoner.Text

def hexDigit (d : Nat) : Char := .ofNat (if d < 10 then 0x30 + d else 0x57 + d)

/-- The lowest `width` hexadecimal digits of `n`. -/
def hex : Nat → Nat → List Char
  | 0, _ => []
  | width + 1, n => hex width (n / 16) ++ [hexDigit (n % 16)]

/-- The mark that stands at both ends of the quoted text. -/
def quoteMark (cs : List Char) : Char :=
  if '\x27' ∈ cs ∧ '\x22' ∉ cs then '\x22' else '\x27'

/-- A code point in the shortest escape that holds it. -/
def escapedCodePoint (n : Nat) : List Char :=
  if n < 0x100 then '\\' :: 'x' :: hex 2 n
  else if n < 0x10000 then '\\' :: 'u' :: hex 4 n
  else '\\' :: 'U' :: hex 8 n

/-- One character between two marks. -/
def escaped (mark c : Char) : List Char :=
  if c = '\\' ∨ c = mark then ['\\', c]
  else if c = '\t' then ['\\', 't']
  else if c = '\n' then ['\\', 'n']
  else if c = '\r' then ['\\', 'r']
  else if isPrintable c then [c]
  else escapedCodePoint c.toNat

def quoted (s : String) : String :=
  let mark := quoteMark s.toList
  .ofList (mark :: s.toList.flatMap (escaped mark) ++ [mark])

end Reckoner.Text
