import Reckoner.Mistake
import Reckoner.Token

/-!
# Glyph — the signs of the notation

A text is written in digits, points, operators, percent signs and parentheses, with blanks anywhere between them.  Multiplication and division have two spellings each.  `ofText` reads the signs of a text in order and stops at the first character that is neither a sign nor blank.
-/

namespace Reckoner

inductive Glyph where
  | digit (d : Fin 10)
  | point
  | op (o : BinOp)
  | percent
  | lparen
  | rparen
deriving DecidableEq, Repr

namespace Glyph

/-- The sign a character writes. -/
def ofChar? : Char → Option Glyph
  | '0' => some (.digit 0)
  | '1' => some (.digit 1)
  | '2' => some (.digit 2)
  | '3' => some (.digit 3)
  | '4' => some (.digit 4)
  | '5' => some (.digit 5)
  | '6' => some (.digit 6)
  | '7' => some (.digit 7)
  | '8' => some (.digit 8)
  | '9' => some (.digit 9)
  | '.' => some .point
  | '+' => some (.op .add)
  | '-' => some (.op .sub)
  | '*' | '×' => some (.op .mul)
  | '/' | '÷' => some (.op .div)
  | '%' => some .percent
  | '(' => some .lparen
  | ')' => some .rparen
  | _ => none

/-- The character of a digit. -/
def digitChar (d : Fin 10) : Char := .ofNat (0x30 + d)

/-- The signs of the characters from index `position` on. -/
def ofChars (position : Nat) : List Char → Except Mistake (List Glyph)
  | [] => .ok []
  | c :: cs =>
    if Text.isBlank c then ofChars (position + 1) cs
    else match ofChar? c with
      | none => .error (.invalidCharacter c position)
      | some g => (g :: ·) <$> ofChars (position + 1) cs

/-- The signs of a text. -/
def ofText (s : String) : Except Mistake (List Glyph) := ofChars 0 s.toList

theorem ofChar?_digitChar (d : Fin 10) : ofChar? (digitChar d) = some (.digit d) := by
  revert d; decide

/-- No sign is blank. -/
theorem ofChar?_eq_none_of_isBlank {c : Char} (h : Text.isBlank c = true) : ofChar? c = none := by
  unfold ofChar?
  split
  rotate_right
  · rfl
  all_goals exact absurd h (by decide)

end Glyph

end Reckoner
