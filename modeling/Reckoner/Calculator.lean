import Reckoner.Decimal.Notation
import Reckoner.Evaluation
import Reckoner.Expression
import Reckoner.Settings
import Reckoner.Token.Postfix
import Reckoner.Token.Scan

/-!
# Calculator — from a text to what is shown

Three ways to ask for the value of a text.  `preview` shows a result while the text is still being typed and nothing when there is none; `commit` answers the finished text with an outcome, in which a mistake becomes a label; `trace` keeps every intermediate result up to the first mistake.  A signal of the arithmetic passes through all three.
-/

namespace Reckoner

/-- What a finished text came to. -/
structure Outcome where
  /-- The text in the form kept in the history. -/
  expression : String
  /-- The result, or the label of the failure. -/
  display : String
  errorKind? : Option Mistake.Kind := none
deriving DecidableEq, Repr

def Outcome.isError (o : Outcome) : Bool := o.errorKind?.isSome

/-- The intermediate results of a text, up to the first mistake. -/
structure Trace where
  expression : String
  tokens : List Token := []
  /-- The tokens in postfix order. -/
  rpn : List Token := []
  /-- The value with all its digits. -/
  value? : Option String := none
  display : String := ""
  mistake? : Option Mistake := none
deriving DecidableEq, Repr

/-- Settings, and the context values are computed in, which need not be that of the settings. -/
structure Calculator where
  settings : Settings
  context : Decimal.Context
deriving DecidableEq, Repr

namespace Calculator

/-- The calculator with the precision of its settings. -/
def ofSettings (settings : Settings) : Calculator := { settings, context := settings.working }

/-- What a reader sees of a value. -/
def shown (c : Calculator) (value : Decimal) : Except Decimal.Signal String := do
  value.display (← c.settings.display)

/-- The display of the value of a text. -/
def compute (c : Calculator) (text : String) : Except Failure String := do
  let tokens ← (Token.scan text).mapError .mistake
  let rpn ← (Token.toPostfix tokens).mapError .mistake
  let value ← evaluate c.context rpn
  (c.shown value).mapError .signal

/-- A mistake is an answer, a signal is not. -/
def settle {α : Type} : Except Failure α → Except Decimal.Signal (Except Mistake α)
  | .ok a => .ok (.ok a)
  | .error (.mistake m) => .ok (.error m)
  | .error (.signal s) => .error s

/-- The display of a finished text, or its first mistake.  An empty text is one. -/
def attempt (c : Calculator) (text : String) : Except Decimal.Signal (Except Mistake String) :=
  if (Expression.canonical text).isEmpty then .ok (.error .emptyExpression)
  else settle (c.compute text)

/-- The label shown in place of a result. -/
def label (c : Calculator) (k : Mistake.Kind) : String :=
  if k = .divisionByZero then c.settings.divisionByZeroLabel else c.settings.malformedLabel

/-- The outcome of a finished text whose attempt ended so. -/
def outcome (c : Calculator) (text : String) : Except Mistake String → Outcome
  | .ok display => { expression := Expression.canonical text, display }
  | .error m =>
    { expression := Expression.canonical text
      display := c.label m.kind
      errorKind? := some m.kind }

/-- Answers a finished text. -/
def commit (c : Calculator) (text : String) : Except Decimal.Signal Outcome :=
  c.outcome text <$> c.attempt text

/-- The display of a finished text, and whether it stands for a mistake. -/
def answer (c : Calculator) (text : String) : Except Decimal.Signal (String × Bool) :=
  (fun o => (o.display, o.isError)) <$> c.commit text

/-- The attempt at a text that is still being typed; blanks alone are no attempt. -/
def glance (c : Calculator) (text : String) :
    Except Decimal.Signal (Option (Except Mistake String)) :=
  if (Text.trim text).isEmpty then .ok none else some <$> settle (c.compute text)

/-- The result shown while a text is being typed, empty when there is none. -/
def preview (c : Calculator) (text : String) : Except Decimal.Signal String := do
  match ← c.glance text with
  | some (.ok display) => return display
  | _ => return ""

/-- Every intermediate result of a text, up to the first mistake. -/
def trace (c : Calculator) (text : String) : Except Decimal.Signal Trace :=
  let start : Trace := { expression := Expression.canonical text }
  match Token.scan text with
  | .error m => .ok { start with mistake? := some m }
  | .ok tokens =>
    match Token.toPostfix tokens with
    | .error m => .ok { start with tokens, mistake? := some m }
    | .ok rpn =>
      match evaluate c.context rpn with
      | .error (.mistake m) => .ok { start with tokens, rpn, mistake? := some m }
      | .error (.signal s) => .error s
      | .ok value => do
        let display ← c.shown value
        return { start with tokens, rpn, value? := some value.plain, display }

end Calculator

end Reckoner
