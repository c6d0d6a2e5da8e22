import Reckoner.Settings
import Reckoner.Settings.WholeNumber

/-!
# Settings — from a record

Settings given by named values; a name without a value leaves its default.
-/

namespace Reckoner

namespace Settings

/-- The names of the fields, in the order their faults are reported. -/
def fieldNames : List String :=
  ["precision", "display_digits", "division_by_zero_label", "malformed_label", "log_level",
   "app_title", "app_version"]

/-- A string, or the default where none is given. -/
def textField (get : String → Option Json) (name default : String) : Checked String :=
  Checked.field name <|
    match get name with
    | none => .ok default
    | some v => Complaint.string (some v)

/-- The settings a record describes. -/
def ofRecord (get : String → Option Json) : Checked Settings :=
  let d : Settings := default
  let precision := Checked.field "precision" <|
    match get "precision" with
    | none => .ok ⟨d.precision, d.fifty_le_precision⟩
    | some v => Complaint.atLeast 50 v
  let displayDigits := Checked.field "display_digits" <|
    match get "display_digits" with
    | none => .ok ⟨d.displayDigits, d.one_le_displayDigits⟩
    | some v => Complaint.atLeast 1 v
  let text := textField get
  let texts :=
    (text "division_by_zero_label" d.divisionByZeroLabel).zip <|
    (text "malformed_label" d.malformedLabel).zip <|
    (text "log_level" d.logLevel).zip <|
    (text "app_title" d.appTitle).zip <|
    text "app_version" d.appVersion
  match precision.zip (displayDigits.zip texts) with
  | .error fs => .error fs
  | .ok (⟨p, hp⟩, ⟨n, hn⟩, divisionByZeroLabel, malformedLabel, logLevel, appTitle, appVersion) =>
    if h : n ≤ p then
      .ok { precision := p, displayDigits := n, divisionByZeroLabel, malformedLabel, logLevel,
            appTitle, appVersion, fifty_le_precision := hp, one_le_displayDigits := hn,
            displayDigits_le_precision := h }
    else Checked.whole .displayBeyondPrecision

end Settings

end Reckoner
