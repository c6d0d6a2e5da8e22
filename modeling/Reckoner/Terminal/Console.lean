import Reckoner.Terminal.Encoding

/-!
# Terminal — the console

The program does not draw by itself.  It hands texts with tags in square brackets, and tables of them, to a console, which gives back the characters to write or says why there are none (`Console`).  All that is said of a console in advance is what it makes of a table without tags: it draws it (`Console.Draws`), though perhaps not in characters that can be encoded (`Console.Prints`).

Whatever is written, by a console or not, goes to a terminal that takes no character outside its encoding (`Console.print`).
-/

namespace Reckoner.Terminal

/-! ### Faults -/

/-- Why a text cannot be shown. -/
inductive Fault where
  /-- A tag that closes a style that is not open, with its index in the text. -/
  | unmatchedClosing (tag : String) (position : Nat)
  /-- A tag that closes the last style where none is open. -/
  | nothingToClose (position : Nat)
  /-- A tag with a colour one of whose components has no digits. -/
  | missingDigits
  /-- Characters outside the encoding, with the index of the first in the text. -/
  | unencodable (e : Encoding) (position : Nat) (characters : List Char)
deriving DecidableEq, Repr

/-- What is said of characters outside an encoding. -/
def unencodableMessage (e : Encoding) (position : Nat) (characters : List Char) : String :=
  let place := match characters with
    | [c] => s!"character '{String.ofList (Text.escapedCodePoint c.toNat)}' in position {position}"
    | cs => s!"characters in position {position}-{position + cs.length - 1}"
  s!"'{e.name}' codec can't encode {place}: ordinal not in range({e.range})"

def Fault.message : Fault → String
  | unmatchedClosing tag position =>
    s!"closing tag '{tag}' at position {position} doesn't match any open tag"
  | nothingToClose position => s!"closing tag '[/]' at position {position} has nothing to close"
  | missingDigits => "invalid literal for int() with base 10: ''"
  | unencodable e position characters => unencodableMessage e position characters

/-- The text as it is written, if it can be encoded. -/
def Encoding.printed (e : Encoding) (s : String) : Except Fault String :=
  if e.encodes s then .ok s
  else
    let (front, rest) := s.toList.span e.holds
    .error (.unencodable e front.length (rest.takeWhile fun c => !e.holds c))

example : Encoding.ascii.printed "2×÷3" = .error (.unencodable .ascii 1 ['×', '÷']) := by rfl

example : (Fault.unencodable .latin1 9 ['—']).message =
    "'latin-1' codec can't encode character '\\u2014' in position 9: ordinal not in range(256)" := by
  decide +kernel

/-! ### Tables -/

inductive Align where
  | left
  | right
deriving DecidableEq, Repr

structure Column where
  header : String
  align : Align := .left
  /-- Its cells may take more lines than they have. -/
  wraps : Bool := true
  cells : List String

/-- A table; one without a header leaves no space at the outer edges of its cells. -/
structure Table where
  title : String
  columns : List Column
  hasHeader : Bool := true

/-- The character can start a tag. -/
def startsTag (c : Char) : Bool := ('a' ≤ c && c ≤ 'z') || c = '#' || c = '/' || c = '@'

/-- No bracket opens a tag. -/
def Untagged (cs : List Char) : Prop :=
  ∀ front c rest, cs = front ++ '[' :: c :: rest → startsTag c = false

/-- No text of the table holds a tag. -/
structure Table.Plain (t : Table) : Prop where
  title : Untagged t.title.toList
  header : ∀ s ∈ t.columns.map Column.header, Untagged s.toList
  cell : ∀ c ∈ t.columns, ∀ s ∈ c.cells, Untagged s.toList

/-! ### Consoles -/

/-- A console on a terminal of some encoding: what it writes for a table, and for a text up to the end of its last line. -/
structure Console where
  encoding : Encoding
  table : Table → Except Fault String
  text : String → Except Fault String

namespace Console

/-- Nothing but a tag keeps a table from being drawn. -/
def Draws (console : Console) : Prop := ∀ t : Table, t.Plain → ∃ drawing, console.table t = .ok drawing

/-- Whatever is drawn for these tables can be encoded. -/
def Prints (console : Console) (tables : List Table) : Prop :=
  ∀ t ∈ tables, ∀ drawing, console.table t = .ok drawing → console.encoding.encodes drawing = true

/-- What is written for a text that means only itself. -/
def print (console : Console) (s : String) : Except Fault String := console.encoding.printed s

/-- What is written for a text with tags. -/
def write (console : Console) (s : String) : Except Fault String := console.text s >>= console.print

/-- What is written for a table. -/
def draw (console : Console) (t : Table) : Except Fault String := console.table t >>= console.print

end Console

end Reckoner.Terminal
