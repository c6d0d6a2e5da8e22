import Reckoner.Text.DecimalDigit

/-!
# Terminal — arguments

The four commands and how they are typed.  Options may stand before or after the expression, long ones may be cut short, and what follows `--` is no option.  An argument that starts with a minus is an option unless it is the minus alone, looks like a negative number or holds a space.
-/

namespace Reckoner.Terminal

/-- What the program is asked to do. -/
inductive Command where
  | eval (expression : String) (json : Bool)
  | preview (expression : String)
  | rpn (expression : String)
  | repl
deriving DecidableEq, Repr

/-- Why there is nothing to do. -/
inductive Usage where
  /-- Help was asked for. -/
  | help
  /-- The arguments are no command. -/
  | wrong
deriving DecidableEq, Repr

/-- Help is a success. -/
def Usage.exitCode : Usage → Nat
  | help => 0
  | wrong => 2

namespace Arguments

/-- How one argument is read. -/
inductive Reading where
  | operand
  | option (name : String)
  /-- An option with text glued to it that it does not take. -/
  | misused
  | ambiguous
  | unknown
deriving DecidableEq, Repr

/-- `-` and digits with at most one point among them, the last of which is a digit; one line feed may follow. -/
def looksNegative (cs : List Char) : Bool :=
  match (if cs.getLast? = some '\n' then cs.dropLast else cs) with
  | '-' :: ds =>
    let whole := ds.takeWhile Text.isDecimalDigit
    match ds.dropWhile Text.isDecimalDigit with
    | [] => !whole.isEmpty
    | '.' :: places => !places.isEmpty && places.all Text.isDecimalDigit
    | _ => false
  | _ => false

/-- What the text glued to a short option for help makes of it, which may only repeat the letter. -/
def readGlued (cs : List Char) : Reading :=
  if cs ≠ [] ∧ cs.all (· == 'h') then .option "-h" else .misused

/-- The long option cut short to `name`, with or without text glued to it. -/
def readLong (long : List String) (name : List Char) (glued : Bool) : Option Reading :=
  match long.filter fun o => name.isPrefixOf o.toList with
  | [] => none
  | [o] => some (if glued then .misused else .option o)
  | _ => some .ambiguous

/-- The option meant by an argument that starts with a minus, where `-h` is short for help and `long` are the long options.  Text may be glued on, to a long option behind an equals sign only. -/
def readOption (long : List String) (s : String) : Option Reading :=
  let name := s.toList.takeWhile (· ≠ '=')
  let glued := s.contains '='
  if s = "-h" ∨ s ∈ long then some (.option s)
  else match s.toList with
    | '-' :: '-' :: _ =>
      if glued ∧ String.ofList name ∈ long then some .misused else readLong long name glued
    | '-' :: 'h' :: '=' :: cs | '-' :: 'h' :: cs => some (readGlued cs)
    | _ => none

/-- How an argument is read where `long` are the long options. -/
def read (long : List String) (s : String) : Reading :=
  match s.toList with
  | '-' :: rest =>
    if rest.isEmpty then .operand
    else match readOption long s with
      | some r => r
      | none => if looksNegative s.toList ∨ s.contains ' ' then .operand else .unknown
  | _ => .operand

/-- The operands and options read so far. -/
structure State where
  expression? : Option String := none
  json : Bool := false
  /-- Something was left over. -/
  surplus : Bool := false
  /-- The expression was the last argument. -/
  adjacent : Bool := false

/-- An operand: the first is the expression, if the command takes one. -/
def State.operand (st : State) (takesExpression : Bool) (s : String) : State :=
  if takesExpression ∧ st.expression?.isNone then
    { st with expression? := some s, adjacent := true }
  else { st with surplus := true, adjacent := false }

/-- What follows `--`: operands only.  The mark itself is left over unless the expression stands next to it. -/
def State.rest (st : State) (takesExpression : Bool) (args : List String) : State :=
  match st.expression?, args with
  | none, s :: args =>
    { st with
      expression? := if takesExpression then some s else none
      surplus := st.surplus || !takesExpression || !args.isEmpty }
  | none, [] => { st with surplus := st.surplus || !takesExpression }
  | some _, args => { st with surplus := st.surplus || !st.adjacent || !args.isEmpty }

/-- Reads the arguments of a command from left to right. -/
def readAll (long : List String) (takesExpression : Bool) (st : State) :
    List String → Except Usage State
  | [] => .ok st
  | s :: args =>
    if s = "--" then .ok (st.rest takesExpression args)
    else match read long s with
      | .operand => readAll long takesExpression (st.operand takesExpression s) args
      | .option "--json" =>
        readAll long takesExpression { st with json := true, adjacent := false } args
      | .option _ => .error .help
      | .misused | .ambiguous => .error .wrong
      | .unknown =>
        readAll long takesExpression { st with surplus := true, adjacent := false } args

/-- The operands and options of a command.  An ambiguous option is found before anything is done. -/
def parse (long : List String) (takesExpression : Bool) (args : List String) :
    Except Usage State := do
  if (args.takeWhile (· ≠ "--")).any (read long · == .ambiguous) then throw .wrong
  let st ← readAll long takesExpression {} args
  if st.surplus then throw .wrong
  return st

/-- The expression of a command that has to have one. -/
def expression (long : List String) (args : List String) : Except Usage (String × State) := do
  let st ← parse long true args
  match st.expression? with
  | some e => return (e, st)
  | none => throw .wrong

end Arguments

namespace Command

/-- The command of this name with these arguments. -/
def ofName (name : String) (args : List String) : Except Usage Command := do
  match name with
  | "eval" =>
    let (e, st) ← Arguments.expression ["--help", "--json"] args
    return .eval e st.json
  | "preview" => return .preview (← Arguments.expression ["--help"] args).1
  | "rpn" => return .rpn (← Arguments.expression ["--help"] args).1
  | "repl" =>
    let _ ← Arguments.parse ["--help"] false args
    return .repl
  | _ => throw .wrong

/-- The command a list of arguments asks for.  Options in front of it other than help are wrong, but only once the command itself is understood. -/
def ofArguments : List String → Except Usage Command
  | [] => .error .wrong
  | s :: args =>
    if s = "--" then .error .wrong
    else match Arguments.read ["--help"] s with
      | .operand => ofName s args
      | .option _ => .error .help
      | .misused | .ambiguous => .error .wrong
      | .unknown => ofArguments args >>= fun _ => .error .wrong

end Command

end Reckoner.Terminal
