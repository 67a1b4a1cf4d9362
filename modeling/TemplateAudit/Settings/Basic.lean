import TemplateAudit.Log.Record
import TemplateAudit.Text.Case
import TemplateAudit.Toml.Value

namespace TemplateAudit

/-- How findings are reported. -/
inductive ReportFormat where
  | text
  | json
deriving DecidableEq, Repr

/-- The name of a report format. -/
def ReportFormat.name : ReportFormat → Text
  | .text => "text"
  | .json => "json"

/-- The report format with a given name. -/
def ReportFormat.ofName? (name : Text) : Option ReportFormat :=
  [ReportFormat.text, .json].find? (·.name == name)

/-- Settings. -/
structure Settings where
  disabledRules : List Text := []
  logLevel : LogLevel := .warning
  format : ReportFormat := .text
deriving DecidableEq, Repr

/-- What is wrong with a table of settings. -/
inductive SettingsFault where
  | disabledRules
  | logLevel (value : Setting)
  | format (value : Setting)
deriving Repr

/-- A complaint about settings from a given source. -/
structure SettingsError where
  source : Text
  fault : SettingsFault
deriving Repr

/-- How many values inside one another a complaint can show: what the depth of its calls leaves of a thousand. -/
def showRoom : Nat := 993

/-- A complaint that shows a value. If the value cannot be shown, that is all there is to say. -/
def complaintWith (source complaint : Text) (value : Setting) : Text :=
  match value.showFault? showRoom with
  | none => source ++ ": " ++ complaint ++ value.shown
  | some .integerTooLong => Numeral.unwritable
  | some .nestedTooDeeply => "maximum recursion depth exceeded while getting the repr of an object"

/-- The complaint as text. -/
def SettingsError.message (error : SettingsError) : Text :=
  match error.fault with
  | .disabledRules => error.source ++ ": 'disabled-rules' must be a list of strings"
  | .logLevel value => complaintWith error.source "unknown log-level " value
  | .format value => complaintWith error.source "format must be 'text' or 'json', got " value

/-- Whether a complaint comes to nothing because the value that it would show is nested too deeply. -/
def SettingsFault.nestedTooDeeply : SettingsFault → Bool
  | .disabledRules => false
  | .logLevel value | .format value => value.showFault? showRoom == some .nestedTooDeeply

namespace Settings

/-- The names in a list of texts. -/
def names? : List Setting → Option (List Text)
  | [] => some []
  | .text name :: rest => (names? rest).map (name :: ·)
  | _ :: _ => none

/-- The rules that a table leaves out; none if it does not say. -/
def readDisabledRules (table : SettingTable) : Except SettingsFault (List Text) :=
  match table.value? "disabled-rules" with
  | none => .ok []
  | some (.list items) =>
    match names? items with
    | some names => .ok names
    | none => .error .disabledRules
  | some _ => .error .disabledRules

/-- The log level that a table asks for by name, letter case apart; a warning if it does not say. -/
def readLogLevel (table : SettingTable) : Except SettingsFault LogLevel :=
  match table.value? "log-level" with
  | none | some .absent => .ok .warning
  | some (.text name) =>
    match LogLevel.ofName? name.upper with
    | some level => .ok level
    | none => .error (.logLevel (.text name))
  | some value => .error (.logLevel value)

/-- The report format that a table asks for; text if it does not say. -/
def readFormat (table : SettingTable) : Except SettingsFault ReportFormat :=
  match table.value? "format" with
  | none => .ok .text
  | some (.text name) =>
    match ReportFormat.ofName? name with
    | some format => .ok format
    | none => .error (.format (.text name))
  | some value => .error (.format value)

/-- The settings in a table. Complaints name the source of the table, and the first one wins. -/
def ofTable (source : Text) (table : SettingTable) : Except SettingsError Settings :=
  let read : Except SettingsFault Settings := do
    let disabledRules ← readDisabledRules table
    let logLevel ← readLogLevel table
    let format ← readFormat table
    return ⟨disabledRules, logLevel, format⟩
  read.mapError (⟨source, ·⟩)

/-- The source of a table that comes from no file. -/
def unnamedSource : Text := "<config>"

end Settings

end TemplateAudit
