import Reckoner.Text.Blank

/-!
# Expression — the form kept in the history

An expression is kept without blanks at its ends and with one spelling of each operator.
-/

namespace Reckoner.Expression

/-- The spelling kept of a character: `×` for `*`, `÷` for `/`. -/
def spelling (c : Char) : Char :=
  if c = '*' then '×' else if c = '/' then '÷' else c

/-- The form of an expression kept in the history. -/
def canonical (s : String) : String :=
  .ofList ((Text.trimmedList Text.isBlank s.toList).map spelling)

theorem spelling_spelling (c : Char) : spelling (spelling c) = spelling c := by
  by_cases h₁ : c = '*'
  · subst h₁; decide
  · by_cases h₂ : c = '/'
    · subst h₂; decide
    · simp [spelling, h₁, h₂]

end Reckoner.Expression
