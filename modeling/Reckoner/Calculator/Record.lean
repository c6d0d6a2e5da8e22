import Reckoner.Calculator
import Reckoner.Json

/-!
# Calculator — answers as records

The fields of an outcome and of a trace, for whoever reads them elsewhere.  A field without a value is null and never left out.
-/

namespace Reckoner

def Outcome.toJson (o : Outcome) : Json :=
  .object
    [("expression", .string o.expression),
     ("display", .string o.display),
     ("is_error", .bool o.isError),
     ("error_kind", .ofString? (o.errorKind?.map Mistake.Kind.name))]

/-- The tokens of a trace are written as texts. -/
def Trace.toJson (t : Trace) : Json :=
  let texts (ts : List Token) := Json.array (ts.map fun t => .string t.text)
  .object
    [("expression", .string t.expression),
     ("tokens", texts t.tokens),
     ("postfix", texts t.rpn),
     ("value", .ofString? t.value?),
     ("display", .string t.display),
     ("error_kind", .ofString? (t.mistake?.map fun m => m.kind.name)),
     ("error_message", .ofString? (t.mistake?.map Mistake.message))]

end Reckoner
