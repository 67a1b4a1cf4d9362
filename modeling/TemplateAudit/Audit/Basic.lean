import TemplateAudit.Component.Load
import TemplateAudit.Diagnostic.Scan
import TemplateAudit.Report.Print
import TemplateAudit.Settings.Load

namespace TemplateAudit

/-- What an audit goes by. -/
structure AuditOptions where
  rules : List Rule
  format : ReportFormat
  showSource : Bool

/-- What part of an audit has found, printed and logged. -/
structure Findings where
  report : Report
  output : Text
  log : List LogRecord
deriving DecidableEq, Repr

namespace Findings

/-- Nothing found, printed or logged. -/
def empty : Findings := ⟨.empty, [], []⟩

/-- The findings of one part followed by those of another. -/
def append (first second : Findings) : Findings :=
  ⟨⟨first.report.files + second.report.files, first.report.entries ++ second.report.entries⟩,
    first.output ++ second.output, first.log ++ second.log⟩

instance : Append Findings := ⟨append⟩

/-- One file visited. -/
def visited : Findings := ⟨⟨1, []⟩, [], []⟩

end Findings

/-- A failure for which an audit has no words. -/
inductive Crash where
  | file (error : FileError)
  /-- The files below a path cannot be listed. -/
  | listing (error : ListingError)
  | argument (error : ArgumentError)
  | print (error : PrintError)
  | entry (error : EntryError)
  | load (error : LoadError)
  /-- A rule to leave out has no name. -/
  | unnamedRule

/-- What is known about a failure. -/
def Crash.message : Crash → Text
  | .file error => error.message
  | .listing error => error.message
  | .argument error => error.message
  | .print error => error.message
  | .entry error => error.message
  | .load error => error.message
  | .unnamedRule => "unhashable type: 'list'"

/-- Why an audit ends early. -/
inductive AuditStop where
  | missing (path : Path)
  | unreadable (path : Path) (error : FileError)
  | crash (crash : Crash)

/-- Findings, and why no more will come if that is so. -/
structure Audited where
  findings : Findings
  stop : Option AuditStop

namespace Audited

/-- An audit that has come to its end. -/
def complete (findings : Findings) : Audited := ⟨findings, none⟩

/-- An audit that stops without findings. -/
def stopped (stop : AuditStop) : Audited := ⟨.empty, some stop⟩

/-- Findings put before those of an audit. -/
def after (findings : Findings) (later : Audited) : Audited :=
  ⟨findings ++ later.findings, later.stop⟩

/-- Audit the items of a list in order, up to the first that stops. -/
def each {α : Type} (audit : α → Audited) : List α → Audited
  | [] => complete .empty
  | item :: rest =>
    match audit item with
    | ⟨findings, some stop⟩ => ⟨findings, some stop⟩
    | ⟨findings, none⟩ => after findings (each audit rest)

end Audited

namespace TemplateSource

/-- The record of a scanned template. -/
def scannedRecord (template : TemplateSource) (count : Nat) : LogRecord :=
  ⟨.debug, "Scanned " ++ template.fragment.path.getD "None" ++ " (" ++ template.fragment.kind.label
    ++ "): " ++ Text.ofNat count ++ " diagnostic(s)"⟩

/-- What is printed right away about the diagnostics of a template: nothing unless the report is
    text. -/
def print (template : TemplateSource) (options : AuditOptions)
    (diagnostics : List LocatedDiagnostic) : Printed :=
  match options.format with
  | .text => printDiagnostics (some template.source) options.showSource diagnostics
  | .json => ⟨[], none⟩

/-- Audit a template. -/
def audit (options : AuditOptions) (template : TemplateSource) : Audited :=
  let scanned := scan template.fragment options.rules
  match scanned.value with
  | .error error => ⟨⟨.empty, [], scanned.log⟩, some (.crash (.argument error))⟩
  | .ok diagnostics =>
    let log := scanned.log ++ [template.scannedRecord diagnostics.length]
    let printed := template.print options diagnostics
    match printed.error with
    | some error => ⟨⟨.empty, printed.output, log⟩, some (.crash (.print error))⟩
    | none =>
      let (entries, error) := entriesOf (some template.source) diagnostics
      ⟨⟨⟨0, entries⟩, printed.output, log⟩, error.map fun error => .crash (.entry error)⟩

end TemplateSource

namespace FileSystem

/-- Audit a file. A null character in an address that it declares is beyond what can be reported. -/
def auditFile (files : FileSystem) (options : AuditOptions) (path : Path) : Audited :=
  match files.loadTemplates path with
  | .error .nullCharacter => .stopped (.crash (.file .nullCharacter))
  | .error error => .stopped (.unreadable path error)
  | .ok templates => Audited.after .visited (Audited.each (TemplateSource.audit options) templates)

/-- Audit the template files at or below a path. -/
def auditPath (files : FileSystem) (options : AuditOptions) (path : Path) : Audited :=
  match files.node? path with
  | .error error => .stopped (.crash (.file error))
  | .ok none => .stopped (.missing path)
  | .ok (some _) =>
    match files.templateFiles walkRoom path templateSuffixes with
    | .error error => .stopped (.crash (.listing error))
    | .ok found => Audited.each (files.auditFile options) found

/-- Audit paths in order. -/
def auditPaths (files : FileSystem) (options : AuditOptions) (paths : List Path) : Audited :=
  Audited.each (files.auditPath options) paths

end FileSystem

end TemplateAudit
