import Reckoner.Text.Quoted

/-!
# Token — the words of an expression

Numerals, the four binary operators, the percent sign and the parentheses.  A percent sign may carry its target, the operator whose right operand the percentage is.  The text of a numeral is not read here and may be anything; one spelled like a percent sign may carry a target too, which nothing looks at.
-/

namespace Reckoner

/-- The binary operators. -/
inductive BinOp where
  | add
  | sub
  | mul
  | div
deriving DecidableEq, Repr

namespace BinOp

def symbol : BinOp → String
  | add => "+"
  | sub => "-"
  | mul => "×"
  | div => "÷"

/-- The operator a symbol stands for. -/
def ofSymbol? : String → Option BinOp
  | "+" => some add
  | "-" => some sub
  | "×" => some mul
  | "÷" => some div
  | _ => none

/-- How tightly the operator binds. -/
def precedence : BinOp → Nat
  | add | sub => 1
  | mul | div => 2

theorem precedence_add : add.precedence = 1 := rfl

theorem precedence_mul : mul.precedence = 2 := rfl

theorem precedence_div : div.precedence = 2 := rfl

@[simp] theorem ofSymbol?_symbol (o : BinOp) : ofSymbol? o.symbol = some o := by cases o <;> rfl

end BinOp

/-- A numeral as it is written. -/
structure Numeral where
  text : String
  target : Option BinOp := none
  target_eq_none : text ≠ "%" → target = none := by intro; rfl
deriving DecidableEq, Repr

inductive Token where
  | num (n : Numeral)
  | op (o : BinOp)
  /-- A percent sign, and the operator whose right operand it ends. -/
  | percent (target : Option BinOp)
  | lparen
  | rparen
deriving DecidableEq, Repr

namespace Token

/-- The three classes of tokens. -/
inductive Kind where
  | num
  | op
  | paren
deriving DecidableEq, Repr

def Kind.name : Kind → String
  | num => "num"
  | op => "op"
  | paren => "paren"

def Kind.ofName? : String → Option Kind
  | "num" => some .num
  | "op" => some .op
  | "paren" => some .paren
  | _ => none

/-- The numeral written `text`. -/
def number (text : String) : Token := .num { text }

def kind : Token → Kind
  | num _ => .num
  | op _ | percent _ => .op
  | lparen | rparen => .paren

/-- The token as it is written. -/
def text : Token → String
  | num n => n.text
  | op o => o.symbol
  | percent _ => "%"
  | lparen => "("
  | rparen => ")"

/-- The operator the token is marked with. -/
def target? : Token → Option BinOp
  | num n => n.target
  | percent t => t
  | _ => none

/-- How tightly an operator binds; the percent sign binds tightest. -/
def precedence? : Token → Option Nat
  | op o => some o.precedence
  | percent _ => some 3
  | _ => none

def isNumber (t : Token) : Bool := t.kind == .num

/-- An operator, and one of the symbols unless the list of symbols is empty. -/
def isOperator (t : Token) (symbols : List String := []) : Bool :=
  t.kind == .op && (symbols.isEmpty || symbols.contains t.text)

/-- A parenthesis, and the one asked for. -/
def isParen (t : Token) (symbol : Option String := none) : Bool :=
  t.kind == .paren && symbol.all (· == t.text)

/-- Without its target. -/
def unmarked : Token → Token
  | num n => number n.text
  | percent _ => percent none
  | t => t

@[simp] theorem text_unmarked (t : Token) : t.unmarked.text = t.text := by cases t <;> rfl

@[simp] theorem target?_unmarked (t : Token) : t.unmarked.target? = none := by cases t <;> rfl

theorem unmarked_eq_self {t : Token} (h : t.target? = none) : t.unmarked = t := by
  cases t with
  | num n =>
    obtain ⟨text, target, hmark⟩ := n
    obtain rfl : target = none := h
    rfl
  | percent target => exact congrArg percent h.symm
  | op _ | lparen | rparen => rfl

/-- Only a token written as a percent sign carries a target. -/
theorem target?_eq_none {t : Token} (h : t.text ≠ "%") : t.target? = none := by
  cases t with
  | num n => exact n.target_eq_none h
  | percent _ => exact absurd rfl h
  | op _ | lparen | rparen => rfl

end Token

end Reckoner
