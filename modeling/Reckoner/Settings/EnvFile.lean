import Reckoner.Text.Blank

/-!
# Settings — files of variables

A file of `NAME=value` lines.  A name may stand behind `export` or between apostrophes, and without an equals sign it is declared and has no value.  A value between quotes may span lines and hold escapes; any other value, which may be empty, ends before a blank and a number sign, or with its line.  Behind a value only a comment may follow.  A line that breaks these rules is skipped.  In values `${NAME}` and `${NAME:-default}` stand for variables, those of the file before those of the environment.
-/

namespace Reckoner.EnvFile

/-- A variable of the file, and its value if it has one. -/
abbrev Entry := String × Option String

/-- Every line end as one line feed. -/
def unifyLineEnds : List Char → List Char
  | [] => []
  | '\r' :: '\n' :: cs => '\n' :: unifyLineEnds cs
  | c :: cs => (if c = '\r' then '\n' else c) :: unifyLineEnds cs

/-- A blank inside a line. -/
def isInlineBlank (c : Char) : Bool := Text.isBlank c && c != '\n' && c != '\r'

/-- A step of reading, which fails with the text from the place of the failure on. -/
abbrev Reading := Except (List Char)

/-- What follows `export` and a blank, if that comes first. -/
def afterExport (cs : List Char) : List Char :=
  let rest := cs.drop "export".length
  if "export".toList.isPrefixOf cs ∧ rest.head?.any isInlineBlank then rest.dropWhile isInlineBlank
  else cs

/-- The name in front of a line; a comment has none. -/
def name : List Char → Reading (Option String × List Char)
  | '#' :: cs => .ok (none, '#' :: cs)
  | '\x27' :: cs =>
    match cs.takeWhile (· ≠ '\x27'), cs.dropWhile (· ≠ '\x27') with
    | c :: key, _ :: rest => .ok (some (.ofList (c :: key)), rest)
    | _, _ => .error ('\x27' :: cs)
  | cs =>
    let inName (c : Char) := c != '=' && c != '#' && !Text.isBlank c
    match cs.takeWhile inName with
    | [] => .error cs
    | key => .ok (some (.ofList key), cs.dropWhile inName)

/-- What stands before the mark that closes a quotation, and what follows it.  The character behind a backslash does not close. -/
def quotation (mark : Char) : List Char → Option (List Char × List Char)
  | [] => none
  | '\\' :: c :: cs => (quotation mark cs).map fun (body, rest) => ('\\' :: c :: body, rest)
  | c :: cs =>
    if c = mark then some ([], cs)
    else (quotation mark cs).map fun (body, rest) => (c :: body, rest)

/-- The character a backslash and this one stand for between double quotes. -/
def escape? : Char → Option Char
  | '\\' => some '\\'
  | '\x27' => some '\x27'
  | '\x22' => some '\x22'
  | 'a' => some '\x07'
  | 'b' => some '\x08'
  | 'f' => some '\x0c'
  | 'n' => some '\n'
  | 'r' => some '\r'
  | 't' => some '\t'
  | 'v' => some '\x0b'
  | _ => none

/-- Between apostrophes only the backslash and the apostrophe are escaped. -/
def apostropheEscape? (c : Char) : Option Char :=
  if c = '\\' ∨ c = '\x27' then some c else none

/-- With the escapes replaced. -/
def unescaped (escape? : Char → Option Char) : List Char → List Char
  | [] => []
  | '\\' :: c :: cs =>
    match escape? c with
    | some e => e :: unescaped escape? cs
    | none => '\\' :: unescaped escape? (c :: cs)
  | c :: cs => c :: unescaped escape? cs

/-- Up to the first blanks that a number sign follows. -/
def withoutComment : List Char → List Char
  | [] => []
  | c :: cs =>
    if Text.isBlank c ∧ (cs.dropWhile Text.isBlank).head? = some '#' then []
    else c :: withoutComment cs

/-- A value between two marks. -/
def quotedValue (mark : Char) (escape? : Char → Option Char) (cs : List Char) :
    Reading (String × List Char) :=
  match quotation mark cs with
  | some (body, rest) => .ok (.ofList (unescaped escape? body), rest)
  | none => .error (mark :: cs)

/-- The value behind an equals sign. -/
def value (cs : List Char) : Reading (String × List Char) :=
  match cs.dropWhile isInlineBlank with
  | '\x27' :: cs => quotedValue '\x27' apostropheEscape? cs
  | '\x22' :: cs => quotedValue '\x22' escape? cs
  | _ =>
    let line := withoutComment (cs.takeWhile (· ≠ '\n'))
    .ok (.ofList (Text.trimmedList Text.isBlank line), cs.dropWhile (· ≠ '\n'))

/-- The text behind a comment, if there is one, and the end of the line. -/
def endOfLine (cs : List Char) : Reading (List Char) :=
  let rest := match cs.dropWhile isInlineBlank with
    | '#' :: comment => comment.dropWhile (· ≠ '\n')
    | rest => rest
  match rest with
  | [] => .ok []
  | '\n' :: rest => .ok rest
  | _ => .error rest

/-- The entry at the front of the text, which starts with no blank. -/
def entry (cs : List Char) : Reading (Option Entry × List Char) := do
  let (key, cs) ← name (afterExport cs)
  let (v, cs) ← match cs.dropWhile isInlineBlank with
    | '=' :: cs => do
      let (v, cs) ← value cs
      pure (some v, cs)
    | cs => pure (none, cs)
  return (key.map (·, v), ← endOfLine cs)

/-- The entry at the front of the text, and the text behind it; a line that cannot be read gives none. -/
def nextEntry (cs : List Char) : Option Entry × List Char :=
  match entry cs with
  | .ok r => r
  | .error rest => (none, (rest.dropWhile (· ≠ '\n')).drop 1)

/-- The entries of a text. -/
def entriesOf (cs : List Char) : List Entry :=
  match cs.dropWhile Text.isBlank with
  | [] => []
  | c :: text =>
    let (e, rest) := nextEntry (c :: text)
    if _h : rest.length < cs.length then e.toList ++ entriesOf rest else e.toList
termination_by cs.length

/-- The variable at the front of the text: its name, its default, and the text behind it. -/
def reference? : List Char → Option (String × String × List Char)
  | '$' :: '\x7b' :: cs =>
    let inName (c : Char) := c != '\x7d' && c != ':'
    let key := String.ofList (cs.takeWhile inName)
    match cs.dropWhile inName with
    | '\x7d' :: rest => some (key, "", rest)
    | ':' :: '-' :: cs =>
      match cs.dropWhile (· ≠ '\x7d') with
      | _ :: rest => some (key, .ofList (cs.takeWhile (· ≠ '\x7d')), rest)
      | [] => none
    | _ => none
  | _ => none

/-- With the variables replaced; a variable without a value stands for the empty text. -/
def expand (get : String → Option (Option String)) (cs : List Char) : List Char :=
  match cs with
  | [] => []
  | c :: tail =>
    match reference? (c :: tail) with
    | some (key, default, rest) =>
      let v := match get key with
        | some v => v.getD ""
        | none => default
      if _h : rest.length < (c :: tail).length then v.toList ++ expand get rest else v.toList
    | none => c :: expand get tail
termination_by cs.length
decreasing_by
  · assumption
  · simp

/-- The value of a variable among entries. -/
def lookup (es : List Entry) (key : String) : Option (Option String) :=
  (es.find? (·.1 == key)).map (·.2)

/-- Puts an entry in the place of the one of its name, or last. -/
def insert : List Entry → Entry → List Entry
  | [], e => [e]
  | f :: es, e => if f.1 == e.1 then e :: es else f :: insert es e

/-- Without the byte order mark in front. -/
def withoutMark : List Char → List Char
  | '\uFEFF' :: cs => cs
  | cs => cs

/-- The variables of a file, in a given environment. -/
def read (environment : List (String × String)) (text : String) : List Entry :=
  (entriesOf (unifyLineEnds (withoutMark text.toList))).foldl (fun es (key, v) =>
    let get (name : String) := lookup es name <|> ((environment.lookup name).map some)
    insert es (key, v.map fun v => .ofList (expand get v.toList))) []

end Reckoner.EnvFile
