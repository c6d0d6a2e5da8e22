import Reckoner.Terminal.Markup
import Reckoner.Terminal.Paragraph

/-!
# Terminal — tables

Tables drawn in ASCII: a title centred above, a closed frame, and a rule below the header.  A column is as wide as its widest cell, unless the table is wider than the screen: then the widest of the columns that may wrap give way.
-/

namespace Reckoner.Terminal

/-- The cells of a line of the screen. -/
def screenWidth : Nat := 4000

namespace Table

def spaces (n : Nat) : List Char := List.replicate n ' '

/-! ### Widths -/

/-- A whole number of shares of `total`, to the nearest, a half to the even neighbour. -/
def share (total shares : Nat) : Nat :=
  let q := total / shares
  let r := 2 * (total % shares)
  if r < shares ∨ r = shares ∧ q % 2 = 0 then q else q + 1

/-- Takes `excess` off the widths that are `chosen`, no more than `most` of each, evenly. -/
def reduce (most : Nat) : Nat → List (Nat × Bool) → List Nat
  | _, [] => []
  | excess, (w, chosen) :: ws =>
    if chosen then
      let taken := min most (share excess (1 + ws.countP (·.2)))
      (w - taken) :: reduce most (excess - taken) ws
    else w :: reduce most excess ws

/-- The widths after the widest that may wrap have given way to the next, `rounds` times at most. -/
def collapsed (limit : Nat) : (rounds : Nat) → List (Nat × Bool) → List Nat
  | 0, ws => ws.map (·.1)
  | rounds + 1, ws =>
    let excess := (ws.map (·.1)).foldl (· + ·) 0 - limit
    let widest := (ws.filter (·.2)).foldl (fun m w => max m w.1) 0
    let next := (ws.filter fun w => w.2 && w.1 != widest).foldl (fun m w => max m w.1) 0
    if excess = 0 ∨ widest = 0 then ws.map (·.1)
    else
      let reduced := reduce (min excess (widest - next)) excess
        (ws.map fun w => (w.1, w.2 && w.1 == widest))
      collapsed limit rounds (reduced.zip (ws.map (·.2)))

example : collapsed 10 2 [(9, true), (4, true), (1, false)] = [5, 4, 1] := by decide
example : collapsed 10 2 [(9, true), (8, true), (1, false)] = [4, 5, 1] := by decide

/-! ### Layout -/

/-- A column with its cells as they are shown, its header first if headers are. -/
structure LaidColumn where
  cells : List (List Char)
  align : Align
  wraps : Bool
  /-- The spaces at the edges of its cells. -/
  before : Nat
  after : Nat

/-- The spaces at the edges of a column. -/
def LaidColumn.edges (l : LaidColumn) : Nat := l.before + l.after

/-- The columns of a table, the first of them the `i`th. -/
def laidFrom (t : Table) (i : Nat) : List Column → Except Fault (List LaidColumn)
  | [] => .ok []
  | c :: cs => do
    let cells ← ((if t.hasHeader then [c.header] else []) ++ c.cells).mapM Markup.shown
    let before := if t.hasHeader ∨ i ≠ 0 then 1 else 0
    let after := if t.hasHeader ∨ i + 1 ≠ t.columns.length then 1 else 0
    return ⟨cells, c.align, c.wraps, before, after⟩ :: (← laidFrom t (i + 1) cs)

/-- The width of a column with its edges, where there is room for it. -/
def LaidColumn.width (room : Nat) (l : LaidColumn) : Nat :=
  min room (l.cells.foldl (fun w c => max w (Paragraph.measure c)) 0 + l.edges)

/-- The width of each column with its edges. -/
def widths (ls : List LaidColumn) : List Nat :=
  let room := screenWidth - (ls.length + 1)
  collapsed room ls.length (ls.map fun l => (l.width room, l.wraps))

/-- A line of a cell, `width` cells wide. -/
def aligned (width : Nat) : Align → List Char → List Char
  | .left, line =>
    let line := Paragraph.truncated .ellipsis width line
    line ++ spaces (width - Text.width line)
  | .right, line =>
    let line := Paragraph.truncated .ellipsis width (Paragraph.trimmedEnd line)
    spaces (width - Text.width line) ++ line

/-- The lines of a cell in a column of that width. -/
def LaidColumn.lines (l : LaidColumn) (width : Nat) (cell : List Char) : List (List Char) :=
  (Paragraph.lines .ellipsis l.wraps (width - l.edges) cell).map fun line =>
    spaces l.before ++ aligned (width - l.edges) l.align line ++ spaces l.after

/-! ### Drawing -/

/-- The lines of a row, as many as its highest cell has. -/
def rowLines (columns : List (LaidColumn × Nat)) (k : Nat) : List (List Char) :=
  let parts := columns.map fun (l, w) => (l.lines w (l.cells.getD k []), w)
  let height := parts.foldl (fun h p => max h p.1.length) 1
  (List.range height).map fun j =>
    '|' :: ['|'].intercalate (parts.map fun (p, w) => p.getD j (spaces w)) ++ ['|']

def dashes (n : Nat) : List Char := List.replicate n '-'

/-- The text in the middle of a line; an odd space goes to the right. -/
def centred (width : Nat) (cs : List Char) : List Char :=
  let left := (width - Text.width cs) / 2
  spaces left ++ cs ++ spaces (width - Text.width cs - left)

/-- The lines of the drawing. -/
def lines (t : Table) : Except Fault (List (List Char)) := do
  let ls ← t.laidFrom 0 t.columns
  let ws := widths ls
  let columns := ls.zip ws
  let inner := ws.foldl (· + ·) 0 + (ws.length - 1)
  let title ← Markup.shown t.title
  let rule := '+' :: dashes inner ++ ['+']
  let count := ls.foldl (fun n l => max n l.cells.length) 0
  let rows := (List.range count).map (rowLines columns)
  let headerRule := '|' :: ['+'].intercalate (ws.map dashes) ++ ['|']
  let body := if t.hasHeader then rows.head?.getD [] ++ [headerRule] ++ rows.tail.flatten
    else rows.flatten
  return centred (inner + 2) title :: rule :: body ++ [rule]

/-- The drawing, each line ended. -/
def draw (t : Table) : Except Fault String := do
  return String.join ((← t.lines).map fun line => .ofList (line ++ ['\n']))

end Table

end Reckoner.Terminal
