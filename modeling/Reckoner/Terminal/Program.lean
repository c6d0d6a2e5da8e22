import Reckoner.Setup
import Reckoner.Terminal.Arguments
import Reckoner.Terminal.Dialogue
import Reckoner.Terminal.Screen

/-!
# Terminal — the program

What the program does with its arguments: they are understood first, then a calculator is set up with the settings that are found, and then the command runs.
-/

namespace Reckoner.Terminal.Program

/-- Carries out a command. -/
def perform (console : Console) (c : Calculator) (asked : Log.Level) (input : String) :
    Command → Except Refusal Report
  | .eval text json => Report.eval console c asked text json
  | .preview text => Report.preview console c asked text
  | .rpn text => Report.rpn console c text
  | .repl => Dialogue.report console c asked input

/-- The report of a command with the settings that are found. -/
def report (console : Console) (found : Except Refusal Settings) (input : String)
    (command : Command) : Except Refusal Report := do
  let (c, asked) ← found >>= Setup.started
  perform console c asked input command

/-- The report of the program on a console, or why there is nothing to do. -/
def runOn (console : Console) (found : Except Refusal Settings) (arguments : List String)
    (input : String) : Except Refusal (Except Usage Report) :=
  match Command.ofArguments arguments with
  | .error u => .ok (.error u)
  | .ok command => .ok <$> report console found input command

/-- The exit code of a run; one that is refused exits like a failure. -/
def exitCode : Except Refusal (Except Usage Report) → Nat
  | .error _ => 1
  | .ok (.error u) => u.exitCode
  | .ok (.ok r) => r.exitCode

/-- The program on a screen of this encoding. -/
def run (sources : Settings.Sources) (e : Encoding) (arguments : List String) (input : String) :
    Except Refusal (Except Usage Report) :=
  runOn (.screen e) (Setup.settings sources) arguments input

end Reckoner.Terminal.Program
