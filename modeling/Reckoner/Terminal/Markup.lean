import Reckoner.Terminal.Console
import Reckoner.Terminal.Emoji
import Reckoner.Terminal.Style

/-!
# Terminal — markup

What a text with tags in square brackets shows.  A tag starts with a small letter, a number sign, a slash or an at sign; it opens a style, or closes the last one or the one it names.  Backslashes in front of a tag stand for half as many, and an odd one more takes the meaning from the tag.  Styles themselves are not shown, pictographs stand for their names, and controls that ring the bell or move the cursor are left out.
-/

namespace Reckoner.Terminal.Markup

/-! ### Parts -/

/-- A stretch of a text. -/
inductive Part where
  | plain (cs : List Char)
  /-- What stands between square brackets, with the index of the opening one. -/
  | tag (position : Nat) (content : List Char)
deriving DecidableEq, Repr

/-- The character can go on a tag. -/
def inTag (c : Char) : Bool := c != '[' && c != ']'

/-- The content of the tag a text starts with, and the text behind it. -/
def tag? : List Char → Option (List Char × List Char)
  | '[' :: c :: cs =>
    match cs.dropWhile inTag with
    | ']' :: rest => if startsTag c then some (c :: cs.takeWhile inTag, rest) else none
    | _ => none
  | _ => none

theorem length_lt_of_tag? {cs content rest : List Char} (h : tag? cs = some (content, rest)) :
    rest.length < cs.length := by
  unfold tag? at h
  split at h
  · rename_i c cs
    split at h
    · rename_i r hr
      split at h
      · cases h
        have := (List.dropWhile_suffix inTag (l := cs)).length_le
        simp [hr] at this ⊢
        omega
      · cases h
    · cases h
  · cases h

/-- The plain text read so far, last character first, as parts. -/
def flush (pending : List Char) : List Part :=
  if pending.isEmpty then [] else [.plain pending.reverse]

/-- A tag and the `count` backslashes in front of it, the first at `position`. -/
def escaped (position count : Nat) (content : List Char) : List Part :=
  let slashes := if count / 2 = 0 then [] else [Part.plain (List.replicate (count / 2) '\\')]
  slashes ++ [if count % 2 = 0 then .tag (position + count) content
    else .plain ('[' :: content ++ [']'])]

/-- The parts of a text from `position` on. -/
def partsFrom (position : Nat) (pending cs : List Char) : List Part :=
  let count := (cs.takeWhile (· == '\\')).length
  match h : tag? (cs.drop count) with
  | some (content, rest) =>
    have : rest.length < cs.length := by
      have := length_lt_of_tag? h
      simp at this
      omega
    flush pending ++ escaped position count content
      ++ partsFrom (position + count + content.length + 2) [] rest
  | none =>
    match cs with
    | [] => flush pending
    | c :: cs => partsFrom (position + 1) (c :: pending) cs
termination_by cs.length

/-- The parts of a text. -/
def parts (cs : List Char) : List Part := partsFrom 0 [] cs

example : parts "1[b]\\[2".toList =
    [.plain ['1'], .tag 1 ['b'], .plain ['\\', '[', '2']] := by
  decide +kernel

example : parts "\\\\\\[a]".toList = [.plain ['\\'], .plain "[a]".toList] := by decide +kernel

/-! ### What is shown -/

/-- A backslash in front of a square bracket is dropped. -/
def unescaped : List Char → List Char
  | '\\' :: '[' :: cs => '[' :: unescaped cs
  | c :: cs => c :: unescaped cs
  | [] => []

/-- The character is shown. -/
def isShown (c : Char) : Bool :=
  c.toNat != 0x07 && c.toNat != 0x08 && !(0x0B ≤ c.toNat && c.toNat ≤ 0x0D)

/-- What a plain text shows. -/
def plainText (cs : List Char) : List Char := (Emoji.replaced (unescaped cs)).filter isShown

/-- The normal spelling of a style a tag names. -/
def styleNamed (name : List Char) : Except Fault String :=
  (Style.normal (.ofList name)).mapError fun _ => .missingDigits

/-- The open styles, innermost first, after a tag. -/
def step (opened : List String) (position : Nat) (content : List Char) :
    Except Fault (List String) := do
  let name := content.takeWhile (· != '=')
  match name with
  | '/' :: closed =>
    if (Text.trimmedList Text.isBlank closed).isEmpty then
      match opened with
      | [] => throw (.nothingToClose position)
      | _ :: opened => return opened
    else
      let style ← styleNamed closed
      if opened.contains style then return opened.erase style
      else throw (.unmatchedClosing (.ofList ('[' :: content ++ [']'])) position)
  | _ => return (← styleNamed name) :: opened

/-- What some parts show where these styles are open. -/
def shownParts (opened : List String) : List Part → Except Fault (List Char)
  | [] => .ok []
  | .plain cs :: ps => (plainText cs ++ ·) <$> shownParts opened ps
  | .tag position content :: ps => do
    let opened ← step opened position content
    shownParts opened ps

/-- What a text shows. -/
def shown (s : String) : Except Fault (List Char) := shownParts [] (parts s.toList)

end Reckoner.Terminal.Markup
