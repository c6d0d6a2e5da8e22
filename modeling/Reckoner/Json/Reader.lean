import Reckoner.Json

/-!
# Json — reading

`Json.ofText` reads a text as one value, or says why it cannot: it ceases to be a value at some index, or goes beyond what is read, which is a number of digits and a depth.  The reader keeps a stack of the brackets still open: it expects a value, a field, or what may follow a value.  Besides the numbers of the format it takes `NaN` and the two infinities.
-/

namespace Reckoner.Json

/-- Why a text is not read. -/
inductive Unreadable where
  /-- It ceases to be a value at this index. -/
  | broken (position : Nat)
  /-- An integer has too many digits, or brackets stand too deep. -/
  | beyondLimits
deriving DecidableEq, Repr

/-- The most digits of an integer. -/
def mostDigits : Nat := 4300

/-- The most brackets inside one another. -/
def deepest : Nat := 950

/-- Why reading stops short. -/
inductive Stop where
  /-- The text from here on does not go on the value. -/
  | before (rest : List Char)
  | beyondLimits

/-- A step of reading. -/
abbrev Reading := Except Stop

def isSpace (c : Char) : Bool := c == ' ' || c == '\t' || c == '\n' || c == '\r'

def skipSpace (cs : List Char) : List Char := cs.dropWhile isSpace

/-! ### Strings -/

/-- The value of a hexadecimal digit. -/
def hexValue? (c : Char) : Option Nat :=
  if '0' ≤ c ∧ c ≤ '9' then some (c.toNat - 0x30)
  else if 'a' ≤ c ∧ c ≤ 'f' then some (c.toNat - 0x57)
  else if 'A' ≤ c ∧ c ≤ 'F' then some (c.toNat - 0x37)
  else none

/-- The number of hexadecimal digits. -/
def ofHex? (cs : List Char) : Option Nat :=
  cs.foldlM (fun n c => (hexValue? c).map (16 * n + ·)) 0

/-- The character that a backslash and this one stand for. -/
def unescape? : Char → Option Char
  | '\x22' => some '\x22'
  | '\\' => some '\\'
  | '/' => some '/'
  | 'b' => some '\x08'
  | 'f' => some '\x0c'
  | 'n' => some '\n'
  | 'r' => some '\r'
  | 't' => some '\t'
  | _ => none

/-- The 16-bit units and characters up to the closing quote, and the text behind it.  A string that never closes fails at its opening quote, `start`. -/
def readUnits (start : List Char) : List Char → Reading (List Nat × List Char)
  | [] => .error (.before start)
  | '\\' :: 'u' :: a :: b :: c :: d :: cs =>
    match ofHex? [a, b, c, d] with
    | none => .error (.before ('u' :: a :: b :: c :: d :: cs))
    | some n =>
      if cs.isEmpty then .error (.before ['u', a, b, c, d])
      else (readUnits start cs).map fun (ns, rest) => (n :: ns, rest)
  | '\\' :: c :: cs =>
    if c = 'u' then .error (.before (c :: cs))
    else match unescape? c with
      | none => .error (.before ('\\' :: c :: cs))
      | some e => (readUnits start cs).map fun (ns, rest) => (e.toNat :: ns, rest)
  | c :: cs =>
    if c = '\x22' then .ok ([], cs)
    else if c = '\\' then .error (.before start)
    else if c.toNat < 0x20 then .error (.before (c :: cs))
    else (readUnits start cs).map fun (ns, rest) => (c.toNat :: ns, rest)

/-- The characters of a list of units: a high and a low surrogate are one character. -/
def ofUnits : List Nat → List Char
  | [] => []
  | hi :: lo :: ns =>
    if 0xD800 ≤ hi ∧ hi < 0xDC00 ∧ 0xDC00 ≤ lo ∧ lo < 0xE000 then
      .ofNat (0x10000 + (hi - 0xD800) * 0x400 + (lo - 0xDC00)) :: ofUnits ns
    else .ofNat hi :: ofUnits (lo :: ns)
  | n :: ns => .ofNat n :: ofUnits ns

/-- The string after an opening quote, and the text behind it. -/
def readString (cs : List Char) : Reading (String × List Char) :=
  (readUnits ('\x22' :: cs) cs).map fun (ns, rest) => (.ofList (ofUnits ns), rest)

/-! ### Numbers and words -/

/-- The digits in front of a text, and the text behind them. -/
def readDigits (cs : List Char) : List Char × List Char :=
  (cs.takeWhile Decimal.isDigit, cs.dropWhile Decimal.isDigit)

/-- The whole part of a number: a zero, or digits that do not begin with one. -/
def readWhole : List Char → List Char × List Char
  | '0' :: cs => (['0'], cs)
  | cs => readDigits cs

/-- The digits behind a point, if any follow it. -/
def readPlaces (cs : List Char) : List Char × List Char :=
  match cs with
  | '.' :: ds => if ds.head?.any Decimal.isDigit then readDigits ds else ([], cs)
  | _ => ([], cs)

/-- The exponent, if a mark and digits are there. -/
def readExponent (cs : List Char) : Int × List Char :=
  match cs with
  | c :: es =>
    let (negative, ds) := Decimal.splitSign es
    if Decimal.isExponentMark c ∧ ds.head?.any Decimal.isDigit then
      let n := Decimal.ofDigits (readDigits ds).1
      (if negative then -(n : Int) else n, (readDigits ds).2)
    else (0, cs)
  | [] => (0, [])

/-- The number in front of a text, and the text behind it. -/
def readNumber (cs : List Char) : Reading (Json × List Char) :=
  let (negative, ds) := match cs with
    | '-' :: ds => (true, ds)
    | _ => (false, cs)
  let (whole, tail) := readWhole ds
  let (places, ds) := readPlaces tail
  let (e, rest) := readExponent ds
  let n := Decimal.ofDigits (whole ++ places)
  if whole.isEmpty then .error (.before cs)
  else if rest.length < tail.length then
    .ok (.number (.finite ⟨negative, n, e - places.length⟩), rest)
  else if mostDigits < whole.length then .error .beyondLimits
  else .ok (.integer (if negative then -(n : Int) else n), rest)

/-- The words that stand for values. -/
def words : List (String × Json) :=
  [("null", .null), ("true", .bool true), ("false", .bool false), ("NaN", .number .nan),
   ("Infinity", .number (.infinity false)), ("-Infinity", .number (.infinity true))]

/-- The word in front of a text, and the text behind it. -/
def readWord? (cs : List Char) : Option (Json × List Char) :=
  (words.find? fun w => w.1.toList.isPrefixOf cs).map fun w => (w.2, cs.drop w.1.length)

/-! ### Values -/

/-- A bracket still open, with what has been read inside it, last first. -/
inductive Frame where
  | items (done : List Json)
  | fields (done : List (String × Json)) (name : String)

/-- What the reader expects next. -/
inductive Expected where
  | value
  /-- A field of an object after these. -/
  | field (done : List (String × Json))
  /-- What may follow a value inside the open brackets. -/
  | follow (v : Json)

/-- Reads until the outermost bracket closes.  Each step but the last takes a character, so that `fuel` beyond the length of the text is never used up. -/
def readSteps (fuel : Nat) (expected : Expected) (stack : List Frame) (cs : List Char) :
    Reading (Json × List Char) :=
  match fuel with
  | 0 => .error (.before cs)
  | fuel + 1 =>
    match expected with
    | .value =>
      if deepest < stack.length then .error .beyondLimits
      else match skipSpace cs with
      | '\x22' :: cs => do
        let (s, rest) ← readString cs
        readSteps fuel (.follow (.string s)) stack rest
      | '\x7b' :: cs =>
        match skipSpace cs with
        | '\x7d' :: rest => readSteps fuel (.follow (.object [])) stack rest
        | rest => readSteps fuel (.field []) stack rest
      | '[' :: cs =>
        match skipSpace cs with
        | ']' :: rest => readSteps fuel (.follow (.array [])) stack rest
        | rest => readSteps fuel .value (.items [] :: stack) rest
      | cs => do
        let (v, rest) ← (readWord? cs).elim (readNumber cs) .ok
        readSteps fuel (.follow v) stack rest
    | .field done =>
      match skipSpace cs with
      | '\x22' :: cs => do
        let (name, rest) ← readString cs
        match skipSpace rest with
        | ':' :: rest => readSteps fuel .value (.fields done name :: stack) rest
        | rest => .error (.before rest)
      | rest => .error (.before rest)
    | .follow v =>
      match stack with
      | [] => .ok (v, cs)
      | .items done :: stack =>
        match skipSpace cs with
        | ',' :: rest => readSteps fuel .value (.items (v :: done) :: stack) rest
        | ']' :: rest => readSteps fuel (.follow (.array (v :: done).reverse)) stack rest
        | rest => .error (.before rest)
      | .fields done name :: stack =>
        match skipSpace cs with
        | ',' :: rest => readSteps fuel (.field ((name, v) :: done)) stack rest
        | '\x7d' :: rest =>
          readSteps fuel (.follow (.object ((name, v) :: done).reverse)) stack rest
        | rest => .error (.before rest)

/-- One value with nothing but space around it. -/
def readWholeText (cs : List Char) : Reading Json := do
  let (v, rest) ← readSteps (2 * cs.length + 2) .value [] cs
  match skipSpace rest with
  | [] => return v
  | rest => throw (.before rest)

/-- The value of a text, or why there is none.  A byte order mark in front is ignored. -/
def ofText (s : String) : Except Unreadable Json :=
  let cs := match s.toList with
    | '\uFEFF' :: cs => cs
    | cs => cs
  (readWholeText cs).mapError fun
    | .before rest => .broken (cs.length - rest.length)
    | .beyondLimits => .beyondLimits

end Reckoner.Json
