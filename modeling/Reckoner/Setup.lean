import Reckoner.Log
import Reckoner.Refusal
import Reckoner.Settings.Sources

/-!
# Setup — a calculator from its sources

Everything that can stand between the sources of the settings and a calculator that answers.  A precision asked for apart from the settings is looked at before them.  Where failures are logged, the level of the log comes right after the settings, and the precision they ask for last.
-/

namespace Reckoner

namespace Setup

/-- The context of a precision asked for. -/
def context (precision : Int) : Except Refusal Decimal.Context :=
  Refusal.ofSignal (Decimal.Context.ofInt precision)

/-- The settings of some sources. -/
def settings (sources : Settings.Sources) : Except Refusal Settings :=
  (Settings.ofSources sources).mapError .settings

/-- A calculator with the precision of its settings. -/
def ofSettings (s : Settings) : Except Refusal Calculator := return ⟨s, ← context s.precision⟩

/-- A calculator with the settings of some sources, and a precision of its own if one is given. -/
def calculator (sources : Settings.Sources) (precision : Option Int := none) :
    Except Refusal Calculator := do
  match precision with
  | some p =>
    let ctx ← context p
    return ⟨← settings sources, ctx⟩
  | none => ofSettings (← settings sources)

/-- The level the settings ask for. -/
def level (s : Settings) : Except Refusal Log.Level :=
  let name := Text.upper s.logLevel
  (Log.Level.ofName? name).elim (.error (.logLevel name)) .ok

/-- A calculator with these settings, and the level they ask for. -/
def started (s : Settings) : Except Refusal (Calculator × Log.Level) := do
  let asked ← level s
  return (← ofSettings s, asked)

end Setup

end Reckoner
