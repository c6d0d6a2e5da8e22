/-!
# Text — blank characters

Two classes of characters that only separate: the white space of Unicode, 25 code points, and the blanks, which add the four separators U+001C to U+001F.  `trimmed` removes the characters of a class from both ends of a text.
-/

namespace Reckoner.Text

/-- `n` lies in one of the closed ranges. -/
def inRanges (ranges : List (Nat × Nat)) (n : Nat) : Bool :=
  ranges.any fun r => r.1 ≤ n && n ≤ r.2

/-- The white space of Unicode, ascending and apart. -/
def whiteSpaceRanges : List (Nat × Nat) :=
  [(0x09, 0x0D), (0x20, 0x20), (0x85, 0x85), (0xA0, 0xA0), (0x1680, 0x1680), (0x2000, 0x200A),
   (0x2028, 0x2029), (0x202F, 0x202F), (0x205F, 0x205F), (0x3000, 0x3000)]

def isWhiteSpace (c : Char) : Bool := inRanges whiteSpaceRanges c.toNat

/-- White space, or one of the four information separators. -/
def isBlank (c : Char) : Bool := isWhiteSpace c || (0x1C ≤ c.toNat && c.toNat ≤ 0x1F)

/-- Without the characters of the class at either end. -/
def trimmedList (p : Char → Bool) (cs : List Char) : List Char :=
  ((cs.dropWhile p).reverse.dropWhile p).reverse

def trimmed (p : Char → Bool) (s : String) : String := .ofList (trimmedList p s.toList)

/-- Without blanks at either end. -/
def trim (s : String) : String := trimmed isBlank s

/-- A zero-width space separates nothing. -/
example : isBlank '\u200b' = false ∧ isBlank '\u001c' = true := by decide

end Reckoner.Text
