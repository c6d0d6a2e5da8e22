import Reckoner.Session
import Reckoner.Terminal.Report

/-!
# Terminal — dialogue

A session typed line by line.  Four words are commands, in any case and with blanks around them; a line of blanks does nothing, and every other line is submitted.  `reply` answers one line, `converse` a list of lines up to the end of the input.
-/

namespace Reckoner.Terminal.Dialogue

/-- What a line asks for. -/
inductive Line where
  | blank
  | quit
  | history
  | clear
  | entry
deriving DecidableEq, Repr

def Line.ofText (s : String) : Line :=
  match (Text.trim s).map Char.toLower with
  | "" => blank
  | "quit" | "exit" => quit
  | "history" => history
  | "clear" => clear
  | _ => entry

/-- What is shown and noted after a line, and the session that goes on, if it does. -/
structure Reply where
  stdout : String := ""
  stderr : String := ""
  next? : Option Session
deriving DecidableEq, Repr

variable (console : Console)

/-- Shown before the first line. -/
def greeting : Except Refusal String := do
  return (← Refusal.ofMarkup (console.write "DeciCalc — 'history', 'clear', 'quit'")) ++ "\n"

/-- Shown before each line. -/
def prompt : Except Refusal String := Refusal.ofMarkup (console.write "[bold cyan]> [/]")

/-- Shown when the input ends without a command to quit. -/
def farewell : String := "\n"

/-- The answer to a line. -/
def reply (c : Calculator) (asked : Log.Level) (s : Session) (line : String) :
    Except Refusal Reply := do
  match Line.ofText line with
  | .blank => return { next? := some s }
  | .quit => return { next? := none }
  | .history =>
    let drawing ← Refusal.ofMarkup (console.draw (Report.historyTable console.encoding s.history))
    return { stdout := drawing, next? := some s }
  | .clear => return { next? := some s.clear }
  | .entry =>
    let text := s.textOf line
    let r ← Refusal.ofSignal (c.attempt text)
    let o := c.outcome text r
    let result ← Refusal.ofMarkup (console.write s!"= {console.encoding.shown o.display}")
    return { stdout := result ++ "\n"
             stderr := console.encoding.noted (Log.committed asked text r)
             next? := some (s.record o) }

/-- The rest of a conversation, from the next prompt on. -/
def converse (c : Calculator) (asked : Log.Level) :
    Session → List String → Except Refusal Report
  | _, [] => do return { stdout := (← prompt console) ++ farewell }
  | s, line :: lines => do
    let shown ← prompt console
    let r ← reply console c asked s line
    let rest ← match r.next? with
      | some s => converse c asked s lines
      | none => pure {}
    return { rest with
      stdout := shown ++ r.stdout ++ rest.stdout
      stderr := r.stderr ++ rest.stderr }

/-- The lines of an input; the last need not be ended. -/
def linesOf (input : String) : List String :=
  let pieces := input.splitOn "\n"
  if pieces.getLast? = some "" then pieces.dropLast else pieces

/-- A whole conversation. -/
def report (c : Calculator) (asked : Log.Level) (input : String) : Except Refusal Report := do
  let greeted ← greeting console
  let r ← converse console c asked {} (linesOf input)
  return { r with stdout := greeted ++ r.stdout }

end Reckoner.Terminal.Dialogue
