import Reckoner.Token

/-!
# Grammar — the infix language

The derivation trees of

    E ::= T | E + T | E - T            sum
    T ::= Q | T × Q | T ÷ Q            product
    Q ::= U | Q % U | Q %              percentage
    U ::= A | - U                      signed
    A ::= number | ( E )               atom

where `Q %` is a phrase only if the token after it does not begin an operand, that is, is no number, no `(` and no `-`.  A tree carries the nonterminal it derives and what the token after it may be, so a tree of any other shape cannot be built.

* `Phrase.tokens`: the phrase as it is written.
* `Phrase.postorder`: the same tokens with every operator behind its operands.
-/

namespace Reckoner

/-- The nonterminals of the grammar. -/
inductive Tier where
  | sum
  | product
  | percentage
  | signed
  | atom
deriving DecidableEq, Repr

/-- What the token after a phrase is, if there is one. -/
inductive Next where
  /-- A number, `(` or `-`, perhaps. -/
  | operand
  /-- None of these. -/
  | other
deriving DecidableEq, Repr

/-- What a binary operator is to the phrase before it: a `-` may begin an operand. -/
def Next.ofOperator : BinOp → Next
  | .sub => operand
  | _ => other

/-- The derivation trees, one constructor a production. -/
inductive Phrase : Tier → Next → Type where
  /-- `A ::= number` -/
  | numeral {n : Next} (text : String) : Phrase .atom n
  /-- `A ::= ( E )` -/
  | group {n : Next} (e : Phrase .sum .other) : Phrase .atom n
  /-- `U ::= A` -/
  | ofAtom {n : Next} (a : Phrase .atom n) : Phrase .signed n
  /-- `U ::= - U` -/
  | negation {n : Next} (u : Phrase .signed n) : Phrase .signed n
  /-- `Q ::= U` -/
  | ofSigned {n : Next} (u : Phrase .signed n) : Phrase .percentage n
  /-- `Q ::= Q % U` -/
  | share {n : Next} (q : Phrase .percentage .other) (u : Phrase .signed n) : Phrase .percentage n
  /-- `Q ::= Q %`, where no operand begins next -/
  | percent (q : Phrase .percentage .other) : Phrase .percentage .other
  /-- `T ::= Q` -/
  | ofPercentage {n : Next} (q : Phrase .percentage n) : Phrase .product n
  /-- `T ::= T × Q | T ÷ Q` -/
  | product {n : Next} (o : BinOp) (ho : o.precedence = 2) (l : Phrase .product (.ofOperator o))
      (r : Phrase .percentage n) : Phrase .product n
  /-- `E ::= T` -/
  | ofProduct {n : Next} (t : Phrase .product n) : Phrase .sum n
  /-- `E ::= E + T | E - T` -/
  | sum {n : Next} (o : BinOp) (ho : o.precedence = 1) (l : Phrase .sum (.ofOperator o))
      (r : Phrase .product n) : Phrase .sum n

/-- An expression: a whole text, so nothing follows it. -/
abbrev Infix : Type := Phrase .sum .other

namespace Phrase

/-- The phrase as it is written. -/
def tokens {k : Tier} {n : Next} : Phrase k n → List Token
  | numeral text => [.number text]
  | group e => .lparen :: (e.tokens ++ [.rparen])
  | ofAtom a => a.tokens
  | negation u => .op .sub :: u.tokens
  | ofSigned u => u.tokens
  | share q u => q.tokens ++ .percent none :: u.tokens
  | percent q => q.tokens ++ [.percent none]
  | ofPercentage q => q.tokens
  | product o _ l r | sum o _ l r => l.tokens ++ .op o :: r.tokens
  | ofProduct t => t.tokens

/-- The phrase is a single number. -/
def isNumeral {k : Tier} {n : Next} : Phrase k n → Bool
  | numeral _ => true
  | ofAtom a => a.isNumeral
  | ofSigned u => u.isNumeral
  | ofPercentage q => q.isNumeral
  | ofProduct t => t.isNumeral
  | group _ | negation _ | share .. | percent _ | product .. | sum .. => false

/-- The left operand, the right operand, the operator.  A negation is a subtraction from zero, and parentheses are dropped.  `before` is the binary operator directly before the phrase: a percent sign that follows a single number is marked with it. -/
def postorder {k : Tier} {n : Next} (before : Option BinOp) : Phrase k n → List Token
  | numeral text => [.number text]
  | group e => e.postorder none
  | ofAtom a => a.postorder before
  | negation u => .number "0" :: (u.postorder none ++ [.op .sub])
  | ofSigned u => u.postorder before
  | share q u => q.postorder before ++ u.postorder none ++ [.percent none]
  | percent q => q.postorder before ++ [.percent (if q.isNumeral then before else none)]
  | ofPercentage q => q.postorder before
  | product o _ l r | sum o _ l r => l.postorder before ++ r.postorder (some o) ++ [.op o]
  | ofProduct t => t.postorder before

end Phrase

end Reckoner
