import Reckoner.Text.DecimalDigit
import Reckoner.Text.Lower

/-!
# Terminal — styles

A style is written as words in any order: attributes, a colour, a colour of the ground behind `on`, an address behind `link`.  Styles are never shown, but a style that is opened under one spelling can be closed under another, so every style has a normal spelling.
-/

namespace Reckoner.Terminal

/-- A way to draw characters. -/
inductive Attribute where
  | bold
  | dim
  | italic
  | underline
  | blink
  | blink2
  | reverse
  | conceal
  | strike
  | underline2
  | frame
  | encircle
  | overline
deriving DecidableEq, Repr

namespace Attribute

/-- The attributes in the order they are written. -/
def all : List Attribute :=
  [bold, dim, italic, underline, blink, blink2, reverse, conceal, strike, underline2, frame,
   encircle, overline]

def name : Attribute → String
  | bold => "bold"
  | dim => "dim"
  | italic => "italic"
  | underline => "underline"
  | blink => "blink"
  | blink2 => "blink2"
  | reverse => "reverse"
  | conceal => "conceal"
  | strike => "strike"
  | underline2 => "underline2"
  | frame => "frame"
  | encircle => "encircle"
  | overline => "overline"

/-- The attribute of that name; some have a short name. -/
def ofName? : String → Option Attribute
  | "b" => some bold
  | "d" => some dim
  | "i" => some italic
  | "u" => some underline
  | "r" => some reverse
  | "c" => some conceal
  | "s" => some strike
  | "uu" => some underline2
  | "o" => some overline
  | word => all.find? (·.name == word)

end Attribute

/-- What the words of a style come to. -/
structure Style where
  /-- The attributes set or, behind `not`, unset, the last word first. -/
  attributes : List (Attribute × Bool) := []
  color? : Option String := none
  ground? : Option String := none
  link? : Option String := none
deriving DecidableEq, Repr

namespace Style

/-- Why words are no style. -/
inductive Unreadable where
  /-- A word that means nothing where it stands. -/
  | unknown
  /-- A colour one of whose components has no digits. -/
  | missingDigits
deriving DecidableEq, Repr

/-! ### Colours -/

/-- The colours that have a name. -/
def colorNames : List String :=
  ["aquamarine1 aquamarine3 black blue blue1 blue3 blue_violet bright_black bright_blue",
   "bright_cyan bright_green bright_magenta bright_red bright_white bright_yellow cadet_blue",
   "chartreuse1 chartreuse2 chartreuse3 chartreuse4 cornflower_blue cornsilk1 cyan cyan1 cyan2",
   "cyan3 dark_blue dark_cyan dark_goldenrod dark_green dark_khaki dark_magenta",
   "dark_olive_green1 dark_olive_green2 dark_olive_green3 dark_orange dark_orange3 dark_red",
   "dark_sea_green dark_sea_green1 dark_sea_green2 dark_sea_green3 dark_sea_green4",
   "dark_slate_gray1 dark_slate_gray2 dark_slate_gray3 dark_turquoise dark_violet deep_pink1",
   "deep_pink2 deep_pink3 deep_pink4 deep_sky_blue1 deep_sky_blue2 deep_sky_blue3 deep_sky_blue4",
   "dodger_blue1 dodger_blue2 dodger_blue3 gold1 gold3 gray0 gray100 gray11 gray15 gray19 gray23",
   "gray27 gray3 gray30 gray35 gray37 gray39 gray42 gray46 gray50 gray53 gray54 gray58 gray62",
   "gray63 gray66 gray69 gray7 gray70 gray74 gray78 gray82 gray84 gray85 gray89 gray93 green",
   "green1 green3 green4 green_yellow grey0 grey100 grey11 grey15 grey19 grey23 grey27 grey3",
   "grey30 grey35 grey37 grey39 grey42 grey46 grey50 grey53 grey54 grey58 grey62 grey63 grey66",
   "grey69 grey7 grey70 grey74 grey78 grey82 grey84 grey85 grey89 grey93 honeydew2 hot_pink",
   "hot_pink2 hot_pink3 indian_red indian_red1 khaki1 khaki3 light_coral light_cyan1 light_cyan3",
   "light_goldenrod1 light_goldenrod2 light_goldenrod3 light_green light_pink1 light_pink3",
   "light_pink4 light_salmon1 light_salmon3 light_sea_green light_sky_blue1 light_sky_blue3",
   "light_slate_blue light_slate_gray light_slate_grey light_steel_blue light_steel_blue1",
   "light_steel_blue3 light_yellow3 magenta magenta1 magenta2 magenta3 medium_orchid",
   "medium_orchid1 medium_orchid3 medium_purple medium_purple1 medium_purple2 medium_purple3",
   "medium_purple4 medium_spring_green medium_turquoise medium_violet_red misty_rose1",
   "misty_rose3 navajo_white1 navajo_white3 navy_blue orange1 orange3 orange4 orange_red1 orchid",
   "orchid1 orchid2 pale_green1 pale_green3 pale_turquoise1 pale_turquoise4 pale_violet_red1",
   "pink1 pink3 plum1 plum2 plum3 plum4 purple purple3 purple4 red red1 red3 rosy_brown",
   "royal_blue1 salmon1 sandy_brown sea_green1 sea_green2 sea_green3 sky_blue1 sky_blue2",
   "sky_blue3 slate_blue1 slate_blue3 spring_green1 spring_green2 spring_green3 spring_green4",
   "steel_blue steel_blue1 steel_blue3 tan thistle1 thistle3 turquoise2 turquoise4 violet wheat1",
   "wheat4 white yellow yellow1 yellow2 yellow3 yellow4"]

/-- A digit to the base sixteen, in lower case. -/
def isHexDigit (c : Char) : Bool := c.isDigit || ('a' ≤ c && c ≤ 'f')

/-- A text between an opening word with its parenthesis and a closing parenthesis. -/
def between? (opening : String) (cs : List Char) : Option (List Char) :=
  let inner := cs.drop opening.length
  if opening.toList.isPrefixOf cs && inner.getLast? = some ')' then some inner.dropLast else none

/-- The number some decimal digits write. -/
def value (cs : List Char) : Nat := cs.foldl (fun n c => 10 * n + Text.decimalDigitValue c) 0

/-- The greatest number of a colour, and of each of its components. -/
def greatest : Nat := 255

/-- A colour by its number, in one to three digits. -/
def isNumbered (cs : List Char) : Bool :=
  (between? "color(" cs).any fun ds =>
    ds.all Char.isDigit && 1 ≤ ds.length && ds.length ≤ 3 && value ds ≤ greatest

/-- A colour by its six digits. -/
def isHex : List Char → Bool
  | '#' :: ds => ds.length = 6 && ds.all isHexDigit
  | _ => false

/-- A colour by its three components. -/
def components (cs : List Char) : Except Unreadable Unit :=
  match between? "rgb(" cs with
  | none => .error .unknown
  | some inner =>
    let ds := (String.ofList inner).splitOn ","
    if ds.length ≠ 3 || !inner.all (fun c => c = ',' || Text.isDecimalDigit c) then
      .error .unknown
    else if ds.any String.isEmpty then .error .missingDigits
    else if ds.all (value ·.toList ≤ greatest) then .ok () else .error .unknown

/-- The colours on lines of names. -/
def names (lines : List String) : List String := lines.flatMap (·.splitOn " ")

/-- The colour a word names, in lower case. -/
def color (word : String) : Except Unreadable String := do
  let word := Text.lower word
  if word == "default" || (names colorNames).contains word || isHex word.toList
      || isNumbered word.toList then return word
  components word.toList
  return word

/-! ### Words -/

/-- The style of some words, put on top of another. -/
def ofWords (s : Style) : List String → Except Unreadable Style
  | [] => .ok s
  | word :: words =>
    match Text.lower word, words with
    | "on", [] | "not", [] | "link", [] => .error .unknown
    | "on", w :: words => do ofWords { s with ground? := some (← color w) } words
    | "not", w :: words =>
      match Attribute.ofName? w with
      | some a => ofWords { s with attributes := (a, false) :: s.attributes } words
      | none => .error .unknown
    | "link", w :: words => ofWords { s with link? := some w } words
    | w, words =>
      match Attribute.ofName? w with
      | some a => ofWords { s with attributes := (a, true) :: s.attributes } words
      | none => do ofWords { s with color? := some (← color w) } words

/-- The words of a text. -/
def wordsOf (s : String) : List String :=
  ((s.toList.splitBy fun a b => Text.isBlank a == Text.isBlank b).filter fun w =>
    !w.head?.any Text.isBlank).map String.ofList

/-- The words in the order of the normal spelling. -/
def words (s : Style) : List String :=
  (Attribute.all.filterMap fun a =>
    (s.attributes.lookup a).map fun on => if on then a.name else "not " ++ a.name)
  ++ s.color?.toList ++ (s.ground?.map ("on " ++ ·)).toList ++ (s.link?.map ("link " ++ ·)).toList

/-- The normal spelling. -/
def text (s : Style) : String :=
  if s.words.isEmpty then "none" else " ".intercalate s.words

/-- The normal spelling of a style; what is no style is spelled in lower case. -/
def normal (spelling : String) : Except Unreadable String :=
  if Text.trim spelling == "none" then .ok "none"
  else match ofWords {} (wordsOf spelling) with
    | .ok s => .ok s.text
    | .error .unknown => .ok (Text.lower (Text.trim spelling))
    | .error e => .error e

end Style

end Reckoner.Terminal
