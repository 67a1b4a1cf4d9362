import TemplateAudit.Proofs.Settings.Shown
import TemplateAudit.Settings.Basic

namespace TemplateAudit

/-- The complaint would show a value that is nested too deeply for it. -/
def SettingsFault.ShowsTooDeep (fault : SettingsFault) : Prop :=
  ∃ value : Setting, (fault = .logLevel value ∨ fault = .format value) ∧ value.Unshowable showRoom .nestedTooDeeply

namespace Settings

/-- The names of rules to leave out that a table gives: none, or those in its list of texts. -/
def GivesRules (table : SettingTable) (names : List Text) : Prop :=
  table.value? "disabled-rules" = none ∧ names = [] ∨
    table.value? "disabled-rules" = some (.list (names.map .text))

/-- The log level that a table gives: a warning, or the one it calls by name in any case of letters. -/
def GivesLevel (table : SettingTable) (level : LogLevel) : Prop :=
  (table.value? "log-level" = none ∨ table.value? "log-level" = some .absent) ∧ level = .warning ∨
    ∃ name, table.value? "log-level" = some (.text name) ∧ (name.upper, level) ∈ LogLevel.names

/-- The report format that a table gives: text, or the one it calls by name. -/
def GivesFormat (table : SettingTable) (format : ReportFormat) : Prop :=
  table.value? "format" = none ∧ format = .text ∨ table.value? "format" = some (.text format.name)

/-- What is wrong with a table at the first key with a value of another kind than the key takes. -/
inductive FirstFault (table : SettingTable) : SettingsFault → Prop where
  | disabledRules (hnone : ∀ names, ¬ GivesRules table names) : FirstFault table .disabledRules
  | logLevel {names : List Text} {value : Setting} (hrules : GivesRules table names)
      (hvalue : table.value? "log-level" = some value) (hnone : ∀ level, ¬ GivesLevel table level) :
      FirstFault table (.logLevel value)
  | format {names : List Text} {level : LogLevel} {value : Setting} (hrules : GivesRules table names)
      (hlevel : GivesLevel table level) (hvalue : table.value? "format" = some value)
      (hnone : ∀ format, ¬ GivesFormat table format) : FirstFault table (.format value)

variable {table : SettingTable}

end Settings

end TemplateAudit
