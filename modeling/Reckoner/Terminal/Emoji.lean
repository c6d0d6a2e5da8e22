import Reckoner.Terminal.Emoji.Names
import Reckoner.Text.Blank
import Reckoner.Text.Lower

/-!
# Terminal — pictographs by name

A name between two colons stands for a pictograph.  A country stands for its flag, a person may be given a tone of skin, and `-text` or `-emoji` behind a name asks for the plain or the coloured form.  A name that stands for nothing is left as it is, colons included.
-/

namespace Reckoner.Terminal.Emoji

/-- The entries of a line. -/
def entriesOf (line : List Char) : List (List Char) :=
  (line.splitBy fun a b => a != ' ' && b != ' ').filter (· != [' '])

/-- The entries of some lines, each a name and what it stands for. -/
def entries (lines : List String) : List (List Char × List Char) :=
  lines.flatMap fun line => (entriesOf line.toList).map fun entry =>
    (entry.takeWhile (· != '='), (entry.dropWhile (· != '=')).drop 1)

/-- A text without its ending, if it ends so. -/
def withoutEnding? (ending cs : List Char) : Option (List Char) :=
  if ending.isSuffixOf cs then some (cs.take (cs.length - ending.length)) else none

/-! ### Flags -/

/-- The letter `A` of a flag. -/
def firstLetter : Nat := 0x1F1E6

/-- The flag of the country with these two letters. -/
def flag (letters : List Char) : List Char :=
  letters.map fun c => .ofNat (firstLetter + (c.toNat - 'A'.toNat))

/-- The flag of the country of that name. -/
def flag? (name : List Char) : Option (List Char) :=
  let lead := "flag_for_".toList
  let country := if lead.isPrefixOf name then name.drop lead.length else name
  ((entries countries).lookup country).map flag

example : flag "PL".toList = "🇵🇱".toList := by decide +kernel

/-! ### Tones -/

/-- The tones of skin and what is put behind a person. -/
def tones : List (String × Char) :=
  [("_light_skin_tone", .ofNat 0x1F3FB), ("_medium-light_skin_tone", .ofNat 0x1F3FC),
   ("_medium_skin_tone", .ofNat 0x1F3FD), ("_medium-dark_skin_tone", .ofNat 0x1F3FE),
   ("_dark_skin_tone", .ofNat 0x1F3FF)]

/-- A person in a tone, which stands in place of a selector. -/
def toned (tone : Char) : List Char → List Char
  | [] => [tone]
  | c :: '\ufe0f' :: cs | c :: cs => c :: tone :: cs

example : toned '.' "⛹\ufe0f\u200d♂".toList = "⛹.\u200d♂".toList := by decide +kernel

/-- The person of that name and tone. -/
def toned? (name : List Char) : Option (List Char) :=
  tones.findSome? fun (ending, tone) => do
    let person ← withoutEnding? ending.toList name
    return toned tone (← (entries people).lookup person)

/-! ### Names in a text -/

/-- What a name stands for. -/
def named? (name : List Char) : Option (List Char) :=
  (entries signs).lookup name <|> (entries people).lookup name <|> flag? name <|> toned? name

/-- The endings of a name that ask for a form, and the selectors of the forms. -/
def forms : List (String × Char) := [("-text", '\ufe0e'), ("-emoji", '\ufe0f')]

/-- A name and the selector its ending asks for. -/
def nameAndSelector (code : List Char) : List Char × List Char :=
  let asked := forms.findSome? fun (ending, selector) =>
    (withoutEnding? ending.toList code).map (·, [selector])
  asked.getD (code, [])

example : nameAndSelector "tan-text".toList = ("tan".toList, ['\ufe0e']) := by decide +kernel

/-- What is shown for the text between two colons, in any case. -/
def shown? (code : List Char) : Option (List Char) :=
  let (name, selector) := nameAndSelector code
  (named? (Text.lower (.ofList name)).toList).map (· ++ selector)

/-- The character can stand in a name. -/
def inName (c : Char) : Bool := c != ':' && !Text.isBlank c

/-- The text with pictographs for their names. -/
def replaced : List Char → List Char
  | [] => []
  | c :: cs =>
    if c = ':' then
      match h : cs.dropWhile inName with
      | ':' :: rest =>
        let code := cs.takeWhile inName
        have : rest.length < cs.length := by
          have := (List.dropWhile_suffix (p := inName) (l := cs)).length_le
          simp [h] at this
          omega
        (shown? code).getD (':' :: code ++ [':']) ++ replaced rest
      | _ => c :: replaced cs
    else c :: replaced cs
termination_by cs => cs.length

end Reckoner.Terminal.Emoji
