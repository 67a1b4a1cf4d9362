import TemplateAudit.Diagnostic.Basic
import TemplateAudit.Json.Write

namespace TemplateAudit

/-- One diagnostic of a report. Line and column are there if the source was at hand. -/
structure ReportEntry where
  rule : Text
  path : Option Text
  start : Int
  stop : Int
  line : Option Int
  column : Option Int
  message : Text
deriving DecidableEq, Repr

/-- The number of scanned files and the diagnostics in them. -/
structure Report where
  files : Int
  entries : List ReportEntry
deriving DecidableEq, Repr

/-- Why a diagnostic cannot be entered into a report or printed. -/
inductive EntryError where
  | offset (error : NegativeOffset)
  | template (error : TemplateError)
deriving DecidableEq, Repr

/-- The complaint about a diagnostic. -/
def EntryError.message : EntryError → Text
  | .offset error => error.message
  | .template error => error.message

/-- The report of a run that has seen nothing yet. -/
def Report.empty : Report := ⟨0, []⟩

/-- Whether a report has anything to complain about. -/
def Report.hasEntries (report : Report) : Bool := !report.entries.isEmpty

/-- The entry of a diagnostic, with line and column if a source is given. -/
def LocatedDiagnostic.entry (diagnostic : LocatedDiagnostic) (source : Option Text) :
    Except EntryError ReportEntry := do
  let position ← match source with
    | none => pure none
    | some source => (diagnostic.position source).mapError .offset |>.map some
  let message ← (diagnostic.message.render .plain).mapError .template
  return {
    rule := diagnostic.rule
    path := diagnostic.path
    start := diagnostic.start
    stop := diagnostic.stop
    line := position.map (·.line)
    column := position.map (·.column)
    message := message }

/-- The entries of diagnostics in order, up to the first one that cannot be made, and the reason if
    there is one. -/
def entriesOf (source : Option Text) :
    List LocatedDiagnostic → List ReportEntry × Option EntryError
  | [] => ([], none)
  | diagnostic :: rest =>
    match diagnostic.entry source with
    | .error error => ([], some error)
    | .ok entry =>
      let (entries, error) := entriesOf source rest
      (entry :: entries, error)

/-- A member for a value. -/
def memberFor (key : Text) (value : Json) : List (Text × Json) := [(key, value)]

/-- A member for a value that is there, and none otherwise. -/
def optionalMember (key : Text) (value : Option Json) : List (Text × Json) :=
  (value.map fun value => (key, value)).toList

/-- An entry as a JSON object; absent values have no member. -/
def ReportEntry.toJson (entry : ReportEntry) : Json :=
  .object (memberFor "rule" (.string entry.rule)
    ++ optionalMember "path" (entry.path.map .string)
    ++ memberFor "start" (.int entry.start)
    ++ memberFor "end" (.int entry.stop)
    ++ optionalMember "line" (entry.line.map .int)
    ++ optionalMember "column" (entry.column.map .int)
    ++ memberFor "message" (.string entry.message))

/-- A report as a JSON object. -/
def Report.toJson (report : Report) : Json :=
  .object [("files", .int report.files),
    ("diagnostics", .array (report.entries.map ReportEntry.toJson))]

/-- The JSON text of a report entry. -/
def ReportEntry.encode (entry : ReportEntry) : Text := entry.toJson.render

/-- The JSON text of a report. -/
def Report.encode (report : Report) : Text := report.toJson.render

end TemplateAudit
