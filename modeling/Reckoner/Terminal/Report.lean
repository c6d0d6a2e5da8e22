import Reckoner.Calculator.Record
import Reckoner.Json.Printer
import Reckoner.Log
import Reckoner.Refusal
import Reckoner.Terminal.Console

/-!
# Terminal — reports

What a command leaves behind: an exit code, what it shows and what it notes beside that.  `eval` answers a finished text, `preview` one still being typed, and `rpn` explains a text in three tables.  A text outside the encoding of the terminal ends a command like any other refusal; notes are always written.
-/

namespace Reckoner.Terminal

structure Report where
  exitCode : Nat := 0
  stdout : String := ""
  stderr : String := ""
deriving DecidableEq, Repr

namespace Report

/-- The exit code of a command that met a mistake. -/
def exitCodeOf (mistaken : Bool) : Nat := if mistaken then 1 else 0

/-- Answers a finished text, as a record if `json` is set; else a failure is only noted. -/
def eval (console : Console) (c : Calculator) (asked : Log.Level) (text : String) (json : Bool) :
    Except Refusal Report := do
  let r ← Refusal.ofSignal (c.attempt text)
  let o := c.outcome text r
  let exitCode := exitCodeOf o.isError
  let note := Log.committed asked text r
  if json then
    let shown ← Refusal.ofMarkup (console.print o.toJson.pretty)
    return { exitCode, stdout := shown ++ "\n", stderr := console.encoding.noted note }
  match o.errorKind? with
  | some k =>
    let stderr := console.encoding.noted (note ++ s!"{o.display} ({k.name})\n")
    return { exitCode, stderr }
  | none =>
    let shown ← Refusal.ofMarkup (console.print o.display)
    return { exitCode, stdout := shown ++ "\n", stderr := console.encoding.noted note }

/-- Shows the result of a text that is still being typed. -/
def preview (console : Console) (c : Calculator) (asked : Log.Level) (text : String) :
    Except Refusal Report := do
  let display ← Refusal.ofSignal (c.preview text)
  let glance ← Refusal.ofSignal (c.glance text)
  let shown ← Refusal.ofMarkup (console.print display)
  return { stdout := shown ++ "\n"
           stderr := console.encoding.noted (Log.previewed asked text glance) }

/-! ### Tables -/

/-- A row for each token. -/
def tokenTable (e : Encoding) (name : String) (ts : List Token) : Table where
  title := s!"{name} [{ts.length}]"
  columns :=
    [⟨"#", .right, false, (List.range ts.length).map toString⟩,
     ⟨"Type", .left, false, ts.map (·.kind.name)⟩,
     ⟨"Value", .left, true, ts.map fun t => e.shown t.text⟩,
     ⟨"Prec", .right, false, ts.map fun t => t.precedence?.elim "" toString⟩]

/-- What a trace came to. -/
def resultTable (e : Encoding) (t : Trace) : Table where
  title := "Result"
  columns :=
    let rows := ("expression", t.expression) :: match t.mistake? with
      | some m => [("error", m.kind.name), ("message", m.message)]
      | none => [("value", t.value?.getD ""), ("display", t.display)]
    [⟨"Key", .left, false, rows.map fun r => e.shown r.1⟩,
     ⟨"Value", .left, true, rows.map fun r => e.shown r.2⟩]
  hasHeader := false

/-- A row for each outcome. -/
def historyTable (e : Encoding) (history : List Outcome) : Table where
  title := s!"History [{history.length}]"
  columns :=
    [⟨"Expression", .left, true, history.map fun o => e.shown o.expression⟩,
     ⟨"Result", .right, true, history.map fun o => e.shown o.display⟩]

/-- What explains a text: its tokens, their order, and what it came to. -/
def tables (e : Encoding) (t : Trace) : List Table :=
  [tokenTable e "Tokens" t.tokens, tokenTable e "Postfix" t.rpn, resultTable e t]

/-- Explains a text. -/
def rpn (console : Console) (c : Calculator) (text : String) : Except Refusal Report := do
  let t ← Refusal.ofSignal (c.trace text)
  let drawings ← Refusal.ofMarkup ((tables console.encoding t).mapM console.draw)
  return { exitCode := exitCodeOf t.mistake?.isSome, stdout := String.join drawings }

end Report

end Reckoner.Terminal
