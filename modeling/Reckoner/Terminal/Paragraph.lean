import Reckoner.Text.Width

/-!
# Terminal — paragraphs

A text laid out in lines of a given width.  Each line of the text is filled up to the next stop at every tab and then cut in front of the words that no longer fit; a word wider than a whole line is either chopped or stands on a line of its own that ends in an ellipsis.  Blanks beyond the width are lost.
-/

namespace Reckoner.Terminal.Paragraph

/-- The pieces of a text between the characters of a class. -/
def pieces (p : Char → Bool) : List Char → List (List Char)
  | [] => [[]]
  | c :: cs =>
    match pieces p cs with
    | [] => [[c]]
    | w :: ws => if p c then [] :: w :: ws else (c :: w) :: ws

/-- The character ends a line wherever lines are measured. -/
def endsLine (c : Char) : Bool :=
  (0x0A ≤ c.toNat && c.toNat ≤ 0x0D) || (0x1C ≤ c.toNat && c.toNat ≤ 0x1E) || c = '\u0085'
    || c = '\u2028' || c = '\u2029'

/-- The cells of the widest line of a text; a tab takes none. -/
def measure (cs : List Char) : Nat :=
  (pieces endsLine cs).foldl (fun w line => max w (Text.width line)) 0

/-! ### Tabs -/

/-- The cells from one tab stop to the next. -/
def tabWidth : Nat := 8

/-- A stretch of text that starts at a tab stop, with the tab at its end filled up to the next. -/
def tabbed (cs : List Char) : List Char :=
  let cs := cs ++ [' ']
  cs ++ List.replicate ((tabWidth - Text.width cs % tabWidth) % tabWidth) ' '

/-- A line with spaces for its tabs. -/
def withoutTabs (line : List Char) : List Char :=
  let stretches := pieces (· = '\t') line
  stretches.dropLast.flatMap tabbed ++ stretches.getLast?.getD []

example : withoutTabs "1\t2".toList = "1       2".toList := by decide +kernel

/-! ### Words -/

/-- What becomes of a word wider than a line. -/
inductive Overflow where
  | fold
  | ellipsis
deriving DecidableEq, Repr

/-- The words of a line, each with the blanks behind it, the first also with those in front. -/
def words (line : List Char) : List (List Char) :=
  match line.splitBy fun a b => !(Text.isBlank a && !Text.isBlank b) with
  | first :: second :: rest =>
    if first.all Text.isBlank then (first ++ second) :: rest else first :: second :: rest
  | ws => ws

example : words " 1 +  2 ".toList = [" 1 ".toList, "+  ".toList, "2 ".toList] := by
  decide +kernel

/-- Without blanks at the end. -/
def trimmedEnd (cs : List Char) : List Char := (cs.reverse.dropWhile Text.isBlank).reverse

/-- The lines of some words, behind the words already on the current line. -/
def filled (o : Overflow) (width : Nat) (line : List Char) (taken : Nat) :
    List (List Char) → List (List Char)
  | [] => [line]
  | w :: ws =>
    let finished := if line.isEmpty then [] else [line]
    if taken + Text.width (trimmedEnd w) ≤ width then
      filled o width (line ++ w) (taken + Text.width w) ws
    else if o = .fold ∧ width < Text.width (trimmedEnd w) then
      let chunks := Text.chopped width w
      let last := chunks.getLast?.getD []
      finished ++ chunks.dropLast ++ filled o width last (Text.width last) ws
    else finished ++ filled o width w (Text.width w) ws

/-- The lines of a line. -/
def cut (o : Overflow) (width : Nat) (line : List Char) : List (List Char) :=
  filled o width [] 0 (words line)

example : cut .fold 5 "1 + 2".toList = ["1 + 2".toList] ∧
    cut .fold 4 "1 + 23456".toList = ["1 + ".toList, "2345".toList, "6".toList] := by
  decide +kernel

/-! ### Lines -/

/-- A line without as many of the blanks at its end as it has characters more than cells. -/
def withoutExcess (width : Nat) (line : List Char) : List Char :=
  let blanks := (line.reverse.takeWhile Text.isBlank).length
  line.take (line.length - min blanks (line.length - width))

/-- A line of at most `width` cells. -/
def truncated (o : Overflow) (width : Nat) (line : List Char) : List Char :=
  if Text.width line ≤ width then line
  else match o with
    | .fold => Text.fitted width line
    | .ellipsis => Text.fitted (width - 1) line ++ ['…']

/-- The lines of a text, cut if it `wraps`; one that could not be cut may still be too wide. -/
def lines (o : Overflow) (wraps : Bool) (width : Nat) (cs : List Char) : List (List Char) :=
  (pieces (· = '\n') cs).flatMap fun line =>
    let line := withoutTabs line
    (if wraps then cut o width line else [line]).map (withoutExcess width)

end Reckoner.Terminal.Paragraph
