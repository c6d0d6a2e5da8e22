import Reckoner.Mistake
import Reckoner.Token

/-!
# Token — postfix order

`Token.toPostfix` reorders the tokens of an expression so that every operator follows its operands, by a stack of operators whose right operand is still open.  Operators of one precedence group to the left.  A minus that no operand precedes is a negation: it becomes a subtraction from a zero put in front of its operand, and takes nothing but that operand.  A percent sign is marked with an operator when it directly follows a numeral which is the right operand of that operator and no further operand begins after it.
-/

namespace Reckoner

/-- What precedes a token, as far as it decides how the token is read. -/
inductive Before where
  /-- No operand: the start, an opening parenthesis, a negation or a percent sign. -/
  | opening
  /-- A binary operator. -/
  | binary (o : BinOp)
  /-- A numeral, and the binary operator directly before it. -/
  | numeral (rightOf : Option BinOp)
  /-- A closing parenthesis. -/
  | closing
deriving DecidableEq, Repr

namespace Before

/-- A minus here is a negation. -/
def negates : Before → Bool
  | opening | binary _ => true
  | numeral _ | closing => false

/-- The binary operator directly before. -/
def operator? : Before → Option BinOp
  | binary o => some o
  | _ => none

@[simp] theorem operator?_opening : opening.operator? = none := rfl

@[simp] theorem operator?_binary (o : BinOp) : (binary o).operator? = some o := rfl

/-- The operator whose right operand ends here with a numeral. -/
def rightOf? : Before → Option BinOp
  | numeral o => o
  | _ => none

end Before

/-- An operator or an opening parenthesis that waits for what follows. -/
inductive Pending where
  | binary (o : BinOp)
  | negation
  | percent (target : Option BinOp)
  | group
deriving DecidableEq, Repr

namespace Pending

/-- How tightly it binds; an opening parenthesis holds everything below it back. -/
def power : Pending → Nat
  | binary o => o.precedence
  | percent _ => 3
  | negation => 4
  | group => 0

def token : Pending → Token
  | binary o => .op o
  | negation => .op .sub
  | percent t => .percent t
  | group => .lparen

end Pending

namespace Token

/-- After a percent sign: no operand begins with these tokens. -/
def endsOperand : List Token → Bool
  | [] | rparen :: _ | percent _ :: _ => true
  | op o :: _ => o != .sub
  | num _ :: _ | lparen :: _ => false

/-- The tokens in postfix order, with the waiting operators, innermost first. -/
def toPostfixFrom : Before → List Pending → List Token → Except Mistake (List Token)
  | _, waiting, [] =>
    if .group ∈ waiting then .error .unmatchedOpening else .ok (waiting.map Pending.token)
  | before, waiting, num n :: ts =>
    (num n :: ·) <$> toPostfixFrom (.numeral before.operator?) waiting ts
  | before, waiting, op o :: ts =>
    if o = .sub ∧ before.negates then
      (number "0" :: ·) <$> toPostfixFrom .opening (.negation :: waiting) ts
    else
      let released := waiting.takeWhile (o.precedence ≤ ·.power)
      let kept := waiting.dropWhile (o.precedence ≤ ·.power)
      (released.map Pending.token ++ ·) <$> toPostfixFrom (.binary o) (.binary o :: kept) ts
  | before, waiting, percent target :: ts =>
    let target := if endsOperand ts then before.rightOf? <|> target else target
    let released := waiting.takeWhile (3 ≤ ·.power)
    let kept := waiting.dropWhile (3 ≤ ·.power)
    (released.map Pending.token ++ ·) <$> toPostfixFrom .opening (.percent target :: kept) ts
  | _, waiting, lparen :: ts => toPostfixFrom .opening (.group :: waiting) ts
  | _, waiting, rparen :: ts =>
    let released := waiting.takeWhile (· ≠ .group)
    match waiting.dropWhile (· ≠ .group) with
    | [] => .error .unmatchedClosing
    | _ :: kept => (released.map Pending.token ++ ·) <$> toPostfixFrom .closing kept ts

/-- The tokens of an expression in postfix order. -/
def toPostfix (ts : List Token) : Except Mistake (List Token) := toPostfixFrom .opening [] ts

end Token

end Reckoner
