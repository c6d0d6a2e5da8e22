import Reckoner.Calculator

/-!
# Session — a conversation with a calculator

A session keeps the outcomes of the lines submitted, newest first, and the last result.  A line that starts with an operator goes on from the last result: the result is written in front of it.  A line of blanks leaves no entry, a failure leaves no last result.
-/

namespace Reckoner

structure Session where
  /-- The outcomes since the last clearing, newest first. -/
  history : List Outcome := []
  /-- The display of the last line, if it was a result. -/
  lastResult? : Option String := none
deriving DecidableEq, Repr

namespace Session

/-- The line goes on from the last result. -/
def continues (line : String) : Bool :=
  line.toList.head?.any ("+-*/×÷%".toList.contains ·)

/-- The text a line stands for. -/
def textOf (s : Session) (line : String) : String :=
  let line := Text.trim line
  match s.lastResult? with
  | some r => if continues line then r ++ line else line
  | none => line

/-- The session after an outcome. -/
def record (s : Session) (o : Outcome) : Session where
  history := if o.expression.isEmpty then s.history else o :: s.history
  lastResult? := if o.isError then none else some o.display

/-- Submits a line.  The session is changed once there is an outcome, and only then. -/
def enter (c : Calculator) (line : String) : ExceptT Decimal.Signal (StateM Session) Outcome := do
  let s ← get
  let o ← liftExcept (c.commit (s.textOf line))
  modify (·.record o)
  return o

/-- What a line comes to, and the session after it. -/
def entered (s : Session) (c : Calculator) (line : String) :
    Except Decimal.Signal Outcome × Session :=
  ((enter c line).run.run s).run

/-- Submits a line to a session; after a signal there is none to go on with. -/
def submit (s : Session) (c : Calculator) (line : String) :
    Except Decimal.Signal (Outcome × Session) :=
  match s.entered c line with
  | (.ok o, s') => .ok (o, s')
  | (.error e, _) => .error e

/-- Forgets everything. -/
def clear (_ : Session) : Session := {}

end Session

end Reckoner
