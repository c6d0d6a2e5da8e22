import Reckoner.Terminal.Table

/-!
# Terminal — the screen

The console the program runs on, wide enough for most of what is written to it: tables as `Table.draw` draws them, and texts laid out in lines as wide as the screen.  Nothing that is proved of the program rests on how they are laid out.
-/

namespace Reckoner.Terminal

/-- A text on as many lines as it takes, the last one not ended. -/
def screenText (s : String) : Except Fault String := do
  let shown ← Markup.shown s
  let lines := (Paragraph.lines .fold true screenWidth shown).map
    (Paragraph.truncated .fold screenWidth)
  return .ofList (['\n'].intercalate lines)

/-- The screen of a terminal. -/
def Console.screen (encoding : Encoding) : Console where
  encoding := encoding
  table := Table.draw
  text := screenText

end Reckoner.Terminal
