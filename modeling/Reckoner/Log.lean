import Reckoner.Calculator
import Reckoner.Text.Upper

/-!
# Log — notes on failures

A calculator notes why a text had no value: a finished text at the level of information, a text still being typed at the level of debugging.  A note is written if its level is at least the level asked for.
-/

namespace Reckoner.Log

/-- The levels, least first; the least lets everything through. -/
inductive Level where
  | notSet
  | debug
  | info
  | warning
  | error
  | critical
deriving DecidableEq, Repr

namespace Level

/-- The names of the levels; two of them have a second one. -/
def ofName? : String → Option Level
  | "NOTSET" => some notSet
  | "DEBUG" => some debug
  | "INFO" => some info
  | "WARNING" | "WARN" => some warning
  | "ERROR" => some error
  | "CRITICAL" | "FATAL" => some critical
  | _ => none

/-- The place of a level in the order. -/
def rank : Level → Nat
  | notSet => 0
  | debug => 1
  | info => 2
  | warning => 3
  | error => 4
  | critical => 5

/-- The level asked for lets the other through. -/
def admits (asked level : Level) : Bool := asked.rank ≤ level.rank

end Level

/-- The note on a finished text. -/
def committed (asked : Level) (text : String) : Except Mistake String → String
  | .ok _ => ""
  | .error m =>
    if asked.admits .info then
      s!"INFO:decicalc.calculator:Commit failed for {Text.quoted text}: {m.message}"
        ++ s!" ({m.kind.name})\n"
    else ""

/-- The note on a text still being typed. -/
def previewed (asked : Level) (text : String) : Option (Except Mistake String) → String
  | some (.error m) =>
    if asked.admits .debug then
      s!"DEBUG:decicalc.calculator:Preview failed for {Text.quoted text}: {m.message}\n"
    else ""
  | _ => ""

end Reckoner.Log
