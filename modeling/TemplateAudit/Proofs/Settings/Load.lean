import TemplateAudit.Proofs.Settings.Table
import TemplateAudit.Settings.Load

namespace TemplateAudit

namespace SettingTable

/-- Under a key a table has another one; nothing at all counts as an empty table. -/
def HasTable (table : SettingTable) (key : Text) (inner : SettingTable) : Prop :=
  table.value? key = some (.table inner) ∨ table.value? key = none ∧ inner = []

/-- Under a key a table has a value that is no table. -/
def HasOther (table : SettingTable) (key : Text) (value : Setting) : Prop :=
  table.value? key = some value ∧ ∀ inner, value ≠ .table inner

variable {table inner : SettingTable} {key : Text} {value : Setting}

end SettingTable

/-- The file at a path holds a document. -/
def FileSystem.HasDocument (files : FileSystem) (path : Path) (document : SettingTable) : Prop :=
  ∃ text, files.readText path = .ok text ∧ Toml.read text = .ok document

namespace Settings

/-- The table of settings in the document of a file: in a project file the one below the table of tools, and the
    whole document in any other. -/
inductive TableIn (path : Path) (document : SettingTable) : SettingTable → Prop where
  | whole (hname : path.name ≠ projectFileName) : TableIn path document document
  | project {tools table : SettingTable} (hname : path.name = projectFileName)
      (htools : document.HasTable "tool" tools) (htable : tools.HasTable tableName table) :
      TableIn path document table

/-- What a file with settings is complained about for. -/
inductive Refuses (files : FileSystem) (path : Path) : LoadError → Prop where
  | unread {error : FileError} (hread : files.readText path = .error error) : Refuses files path (.file error)
  | noDocument {text : Text} {error : Toml.Error} (hread : files.readText path = .ok text)
      (hdocument : Toml.read text = .error error) (hfault : error.fault ≠ .nestedTooDeeply) :
      Refuses files path (.document error text)
  | notTable {document tools : SettingTable} {value : Setting} (hdocument : files.HasDocument path document)
      (hname : path.name = projectFileName) (htools : document.HasTable "tool" tools)
      (hother : tools.HasOther tableName value) : Refuses files path (.notTable path)
  | faulty {document table : SettingTable} {fault : SettingsFault} (hdocument : files.HasDocument path document)
      (htable : TableIn path document table) (hfault : FirstFault table fault) (hshown : ¬ fault.ShowsTooDeep) :
      Refuses files path (.settings ⟨path.text, fault⟩)

/-- What breaks off the loading of settings without a complaint: a value for the tools that is no table, a document with
    values inside one another beyond all measure, and a first fault of which the complaint would show such a value. -/
inductive BreaksOff (files : FileSystem) (path : Path) : LoadError → Prop where
  | toolsNotTable {document : SettingTable} {value : Setting} (hdocument : files.HasDocument path document)
      (hname : path.name = projectFileName) (hother : document.HasOther "tool" value) :
      BreaksOff files path (.toolsNotTable value)
  | nestedTooDeeply {text : Text} {error : Toml.Error} (hread : files.readText path = .ok text)
      (hdocument : Toml.read text = .error error) (hfault : error.fault = .nestedTooDeeply) :
      BreaksOff files path (.document error text)
  | unshowable {document table : SettingTable} {fault : SettingsFault} (hdocument : files.HasDocument path document)
      (htable : TableIn path document table) (hfault : FirstFault table fault) (hdeep : fault.ShowsTooDeep) :
      BreaksOff files path (.settings ⟨path.text, fault⟩)

variable {files : FileSystem} {path : Path} {document table : SettingTable} {error : LoadError}
  {settings : Settings}

/-- The step from a document to its table of settings. -/
def tableOf (path : Path) (document : SettingTable) : Except LoadError SettingTable :=
  if path.name = projectFileName then projectTable path document else .ok document

end Settings

end TemplateAudit
