import Reckoner.Settings.EnvFile
import Reckoner.Settings.Record

/-!
# Settings — where they come from

A setting is looked for in what the caller gives, then in the environment, then in a file of variables.  In the last two its name has a prefix.  The case of a name does not matter in any of them.
-/

namespace Reckoner.Settings

structure Sources where
  given : List (String × Json) := []
  environment : List (String × String) := []
  /-- The text of the file of variables, if there is one. -/
  file : Option String := none

/-- The name of the variable that holds a field. -/
def variableName (field : String) : String := "decicalc_" ++ field

/-- The value of the last variable of that name, in any case. -/
def findVariable {α : Type} (vars : List (String × α)) (field : String) : Option α :=
  (vars.reverse.find? (·.1.map Char.toLower == variableName field)).map (·.2)

/-- The value of the first name given that is this one in any case. -/
def findGiven (given : List (String × Json)) (field : String) : Option Json := do
  let (name, _) ← given.find? (·.1.map Char.toLower == field)
  Json.lookup given name

namespace Sources

/-- The value of a field in the first source that has one. -/
def get (s : Sources) (field : String) : Option Json :=
  findGiven s.given field
    <|> (findVariable s.environment field).map .string
    <|> (do
      let v ← findVariable (EnvFile.read s.environment (← s.file)) field
      v.map .string)

end Sources

/-- The settings of some sources. -/
def ofSources (s : Sources) : Checked Settings := ofRecord s.get

end Reckoner.Settings
