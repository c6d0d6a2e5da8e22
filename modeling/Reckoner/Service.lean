import Reckoner.Calculator.Record
import Reckoner.Json.Reader
import Reckoner.Setup

/-!
# Service — requests and answers

The calculator behind four addresses: one that says how it is set up, and three that answer an expression given as the field `expression` of a record.  A mistake in the expression is an answer like any other; only a request that gives no expression is turned away.
-/

namespace Reckoner.Service

/-- The body of a request. -/
inductive Body where
  | empty
  | value (v : Json)
  | unreadable (why : Json.Unreadable)

/-- The body sent as a text. -/
def Body.ofText (s : String) : Body :=
  if s.isEmpty then empty
  else match Json.ofText s with
    | .ok v => value v
    | .error why => unreadable why

structure Request where
  method : String := "POST"
  path : String
  body : Body := .empty

structure Response where
  status : Nat
  body : Json

/-! ### Addresses -/

/-- How an expression is answered. -/
inductive Answering where
  | preview
  | commit
  | trace
deriving DecidableEq, Repr

/-- The path of the address that answers so. -/
def Answering.path : Answering → String
  | preview => "/evaluate/preview"
  | commit => "/evaluate/commit"
  | trace => "/evaluate/trace"

inductive Address where
  | health
  | evaluate (a : Answering)
deriving DecidableEq, Repr

namespace Address

/-- The path up to a question mark or a number sign, without the slash it starts with and those at its end. -/
def bare (path : String) : String :=
  let cs := path.toList.takeWhile fun c => c != '?' && c != '#'
  let relative := if cs.head? = some '/' then cs.tail else cs
  .ofList (relative.reverse.dropWhile (· == '/')).reverse

def ofPath? (path : String) : Option Address :=
  match bare path with
  | "health" => some health
  | "evaluate/preview" => some (evaluate .preview)
  | "evaluate/commit" => some (evaluate .commit)
  | "evaluate/trace" => some (evaluate .trace)
  | _ => none

theorem ofPath?_path (a : Answering) : ofPath? a.path = some (evaluate a) := by
  cases a <;> decide +kernel

example : ofPath? "/health/?x" = some health ∧ ofPath? "//health" = none := by decide +kernel

/-- The only method an address answers to. -/
def method : Address → String
  | health => "GET"
  | evaluate _ => "POST"

end Address

/-! ### Expressions -/

/-- Why a request gives no expression. -/
inductive Refused where
  | noBody
  | unreadable (why : Json.Unreadable)
  | notRecord
  | noExpression
  | notString
  | tooLong
deriving DecidableEq, Repr

/-- The most characters of an expression. -/
def longest : Nat := 1000

/-- The expression a body gives. -/
def expression : Body → Except Refused String
  | .empty | .value .null => .error .noBody
  | .unreadable why => .error (.unreadable why)
  | .value (.object fields) =>
    match Json.lookup fields "expression" with
    | none => .error .noExpression
    | some (.string s) => if s.length ≤ longest then .ok s else .error .tooLong
    | some _ => .error .notString
  | .value _ => .error .notRecord

/-- An answer that only says what is wrong with the request. -/
def refusal (status : Nat) (detail : String) : Response where
  status := status
  body := .object [("detail", .string detail)]

/-- An answer that says where in the request the fault lies and of what kind it is. -/
def complaint (kind : String) (location : List Json) (message : String) : Response where
  status := 422
  body := .object [("detail", .array [.object
    [("type", .string kind), ("loc", .array location), ("msg", .string message)]])]

def Refused.response (r : Refused) : Response :=
  let body : Json := .string "body"
  let field : Json := .string "expression"
  match r with
  | .noBody => complaint "missing" [body] "Field required"
  | .unreadable (.broken position) =>
    complaint "json_invalid" [body, .ofNat position] "JSON decode error"
  | .unreadable .beyondLimits => refusal 400 "There was an error parsing the body"
  | .notRecord =>
    complaint "model_attributes_type" [body]
      "Input should be a valid dictionary or object to extract fields from"
  | .noExpression => complaint "missing" [body, field] "Field required"
  | .notString => complaint "string_type" [body, field] "Input should be a valid string"
  | .tooLong =>
    complaint "string_too_long" [body, field] s!"String should have at most {longest} characters"

/-! ### Answers -/

/-- How the calculator is set up. -/
def health (s : Settings) : Json :=
  .object
    [("status", .string "ok"), ("version", .string s.appVersion), ("precision", .ofNat s.precision)]

/-- The answer to an expression; a preview gives it back as it came. -/
def Answering.answer (c : Calculator) (text : String) : Answering → Except Decimal.Signal Json
  | preview => do
    return .object [("expression", .string text), ("display", .string (← c.preview text))]
  | commit => Outcome.toJson <$> c.commit text
  | trace => Trace.toJson <$> c.trace text

/-- The answer to a request. -/
def respond (c : Calculator) (r : Request) : Except Decimal.Signal Response :=
  match Address.ofPath? r.path with
  | none => .ok (refusal 404 "Not Found")
  | some address =>
    if r.method.map Char.toUpper ≠ address.method then .ok (refusal 405 "Method Not Allowed")
    else match address with
      | .health => .ok ⟨200, health c.settings⟩
      | .evaluate a =>
        match expression r.body with
        | .error e => .ok e.response
        | .ok text => (⟨200, ·⟩) <$> a.answer c text

/-- A service has to have a title and a version. -/
def named (s : Settings) : Except Refusal Unit :=
  if s.appTitle.isEmpty then .error .noTitle
  else if s.appVersion.isEmpty then .error .noVersion
  else .ok ()

/-- The answers to requests, in order, of a service with the settings of some sources. -/
def serve (sources : Settings.Sources) (rs : List Request) : Except Refusal (List Response) := do
  let s ← Setup.settings sources
  let _ ← Setup.level s
  named s
  let c ← Setup.ofSettings s
  Refusal.ofSignal (rs.mapM (respond c))

end Reckoner.Service
