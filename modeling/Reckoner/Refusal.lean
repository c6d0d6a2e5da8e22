import Reckoner.Decimal.Rounding
import Reckoner.Record
import Reckoner.Terminal.Console

/-!
# Refusal — why there is no answer

What stands in the way of an answer as a whole: faulty settings, a calculation that ends in a signal, a service without a name, or a text that a terminal cannot show.
-/

namespace Reckoner

/-- Why there is no answer. -/
inductive Refusal where
  | settings (faults : List Fault)
  /-- No level of the log has this name. -/
  | logLevel (name : String)
  | signal (s : Decimal.Signal)
  /-- A service has to have a title. -/
  | noTitle
  /-- A service has to have a version. -/
  | noVersion
  /-- A text, with markup or without, that the terminal cannot show. -/
  | markup (fault : Terminal.Fault)
deriving DecidableEq, Repr

namespace Refusal

/-- The wording; a calculation out of range has none. -/
def message? : Refusal → Option String
  | settings faults => some (Fault.report faults)
  | logLevel name => some s!"Unknown level: {Text.quoted name}"
  | signal .precisionRange => some "valid range for prec is [1, MAX_PREC]"
  | signal .precisionSize => some "Python int too large to convert to C ssize_t"
  | signal _ => none
  | noTitle => some "A title must be provided for OpenAPI, e.g.: 'My API'"
  | noVersion => some "A version must be provided for OpenAPI, e.g.: '2.1.0'"
  | markup fault => some fault.message

/-- A result of the arithmetic. -/
def ofSignal {α : Type} (r : Except Decimal.Signal α) : Except Refusal α := r.mapError .signal

/-- A text for the terminal. -/
def ofMarkup {α : Type} (r : Except Terminal.Fault α) : Except Refusal α :=
  r.mapError .markup

end Refusal

end Reckoner
