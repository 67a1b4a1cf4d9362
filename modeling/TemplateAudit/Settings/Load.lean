import TemplateAudit.Files.Tree
import TemplateAudit.Settings.Basic
import TemplateAudit.Toml.Document

namespace TemplateAudit

/-- Why settings cannot be loaded. -/
inductive LoadError where
  | file (error : FileError)
  | document (error : Toml.Error) (document : Text)
  /-- The tools of a project file are no table. -/
  | toolsNotTable (value : Setting)
  /-- The settings in a project file are no table. -/
  | notTable (path : Path)
  | settings (error : SettingsError)

/-- The complaint about settings that cannot be loaded. -/
def LoadError.message : LoadError → Text
  | .file error => error.message
  | .document error text => error.message text
  | .toolsNotTable value => "'" ++ value.kindName ++ "' object has no attribute 'get'"
  | .notTable path => "Invalid configuration table in " ++ path.text
  | .settings error => error.message

namespace Settings

/-- The name of project files. -/
def projectFileName : Text := "pyproject.toml"

/-- The name of the table of settings in a project file. -/
def tableName : Text := "ng-template-linter"

/-- The table of settings in the document of a project file; empty if it is missing. -/
def projectTable (path : Path) (document : SettingTable) : Except LoadError SettingTable :=
  match (document.value? "tool").getD (.table []) with
  | .table tools =>
    match (SettingTable.value? tools tableName).getD (.table []) with
    | .table table => .ok table
    | _ => .error (.notTable path)
  | value => .error (.toolsNotTable value)

/-- The settings in a file. A settings file is a TOML document. In a project file the settings are a table of their
    own below the table of tools; in any other file they are the whole document. -/
def load (files : FileSystem) (path : Path) : Except LoadError Settings := do
  let text ← (files.readText path).mapError .file
  let document ← (Toml.read text).mapError (.document · text)
  let table ← if path.name = projectFileName then projectTable path document else .ok document
  (ofTable path.text table).mapError .settings

end Settings

end TemplateAudit
