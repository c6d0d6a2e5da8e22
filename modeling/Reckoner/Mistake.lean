import Reckoner.Text.Quoted

/-!
# Mistake — why an expression has no value

One constructor a cause.  `kind` sorts the causes into five kinds, `message` words them.
-/

namespace Reckoner

inductive Mistake where
  /-- A character outside the notation, with its index in the text. -/
  | invalidCharacter (c : Char) (position : Nat)
  /-- A closing parenthesis that closes nothing. -/
  | unmatchedClosing
  /-- An opening parenthesis that is never closed. -/
  | unmatchedOpening
  /-- A numeral without digits or with two points. -/
  | invalidNumber (text : String)
  | divisionByZero
  /-- An operator has too few operands. -/
  | operandMissing
  /-- A parenthesis where postfix order has none. -/
  | unexpectedToken (text : String)
  /-- The number of values left is not one. -/
  | leftover (count : Nat)
  /-- Nothing but blanks. -/
  | emptyExpression
deriving DecidableEq, Repr

namespace Mistake

inductive Kind where
  | invalidCharacter
  | mismatchedParentheses
  | invalidNumber
  | divisionByZero
  | malformedExpression
deriving DecidableEq, Repr

def Kind.name : Kind → String
  | invalidCharacter => "InvalidCharacter"
  | mismatchedParentheses => "MismatchedParentheses"
  | invalidNumber => "InvalidNumber"
  | divisionByZero => "DivisionByZero"
  | malformedExpression => "MalformedExpression"

def kind : Mistake → Kind
  | invalidCharacter .. => .invalidCharacter
  | unmatchedClosing | unmatchedOpening => .mismatchedParentheses
  | invalidNumber _ => .invalidNumber
  | divisionByZero => .divisionByZero
  | operandMissing | unexpectedToken _ | leftover _ | emptyExpression => .malformedExpression

def message : Mistake → String
  | invalidCharacter c position =>
    s!"Invalid character {Text.quoted (.singleton c)} at position {position}"
  | unmatchedClosing => "Unmatched ')'"
  | unmatchedOpening => "Unmatched '('"
  | invalidNumber text => s!"Invalid number: {Text.quoted text}"
  | divisionByZero => "Division by zero"
  | operandMissing => "Operand stack underflow"
  | unexpectedToken text => s!"Unexpected token in postfix: {Text.quoted text}"
  | leftover count => s!"Expected exactly one value, {count} left on the stack"
  | emptyExpression => "Empty expression"

end Mistake

end Reckoner
