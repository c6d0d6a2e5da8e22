import Reckoner.Terminal.Program

/-!
# Main — the program on a terminal

Gathers the environment, the file of variables and the arguments, and shows what comes of them.  A conversation is held line by line, so that every answer is seen before the next line is typed.
-/

namespace Reckoner.Main

open Terminal

/-- How the program is used. -/
def usage : String :=
  "usage: decicalc eval [--json] EXPRESSION\n"
    ++ "       decicalc preview EXPRESSION\n"
    ++ "       decicalc rpn EXPRESSION\n"
    ++ "       decicalc repl\n"

/-- The variables of the environment that hold settings. -/
def environment : IO (List (String × String)) :=
  let names := Settings.fieldNames.map Settings.variableName
  (names ++ names.map (·.map Char.toUpper)).filterMapM fun name => do
    return (← IO.getEnv name).map (name, ·)

/-- The text of the file of variables, if there is one. -/
def variableFile : IO (Option String) := do
  try return some (← IO.FS.readFile ".env") catch _ => return none

/-- Shows one text and notes another. -/
def put (out err : String) : IO Unit := do
  IO.print out
  (← IO.getStdout).flush
  IO.eprint err

/-- Says why there is no answer. -/
def refuse (r : Refusal) : IO UInt32 := do
  IO.eprintln (r.message?.getD "the result is out of range")
  return 1

/-- What the program writes to. -/
def console : Console := .screen .utf8

/-- Holds a conversation. -/
def converse (c : Calculator) (asked : Log.Level) : IO UInt32 := do
  let stdin ← IO.getStdin
  match Dialogue.greeting console with
  | .error r => return ← refuse r
  | .ok greeting => put greeting ""
  let mut session : Session := {}
  repeat
    match Dialogue.prompt console with
    | .error r => return ← refuse r
    | .ok prompt => put prompt ""
    let line ← stdin.getLine
    if line.isEmpty then
      put Dialogue.farewell ""
      return 0
    match Dialogue.reply console c asked session (line.dropEndWhile '\n').toString with
    | .error r => return ← refuse r
    | .ok r =>
      put r.stdout r.stderr
      match r.next? with
      | some s => session := s
      | none => return 0
  return 0

/-- Carries out a command and gives its exit code. -/
def perform (command : Command) : IO UInt32 := do
  let found := Setup.settings { environment := ← environment, file := ← variableFile }
  match command with
  | .repl =>
    match found >>= Setup.started with
    | .ok (c, asked) => converse c asked
    | .error r => refuse r
  | _ =>
    match Program.report console found "" command with
    | .ok r => do
      put r.stdout r.stderr
      return r.exitCode.toUInt32
    | .error r => refuse r

end Reckoner.Main

def main (arguments : List String) : IO UInt32 :=
  match Reckoner.Terminal.Command.ofArguments arguments with
  | .ok command => Reckoner.Main.perform command
  | .error .help => do
    IO.print Reckoner.Main.usage
    return 0
  | .error .wrong => do
    IO.eprint Reckoner.Main.usage
    return 2
