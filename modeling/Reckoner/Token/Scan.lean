import Reckoner.Glyph

/-!
# Token — reading and writing

`Token.scan` reads a text as tokens: the digits and points between two other signs make one numeral, blanks among them or not, and every other sign is a token of its own.  Numerals are not checked, so `1..2` is one.  `Token.join` writes tokens with a space between them.
-/

namespace Reckoner.Token

/-- The numeral read so far, if any; its characters come last first. -/
def pendingNumeral : List Char → List Token
  | [] => []
  | run => [number (.ofList run.reverse)]

/-- The tokens of a list of signs, after the characters `run` of an unfinished numeral. -/
def ofGlyphs (run : List Char) : List Glyph → List Token
  | [] => pendingNumeral run
  | .digit d :: gs => ofGlyphs (Glyph.digitChar d :: run) gs
  | .point :: gs => ofGlyphs ('.' :: run) gs
  | .op o :: gs => pendingNumeral run ++ op o :: ofGlyphs [] gs
  | .percent :: gs => pendingNumeral run ++ percent none :: ofGlyphs [] gs
  | .lparen :: gs => pendingNumeral run ++ lparen :: ofGlyphs [] gs
  | .rparen :: gs => pendingNumeral run ++ rparen :: ofGlyphs [] gs

/-- The tokens of a text. -/
def scan (s : String) : Except Mistake (List Token) := ofGlyphs [] <$> Glyph.ofText s

/-- The tokens as one text. -/
def join (ts : List Token) : String := " ".intercalate (ts.map text)

end Reckoner.Token
