import TemplateAudit.Console.Line
import TemplateAudit.Report.Basic

namespace TemplateAudit

/-- The style in which a slot of a given role is shown. -/
def SlotRole.styleName : SlotRole → Text
  | .old => "red"
  | .new => "green"
  | .context => "bold"

/-- The value between style tags for its role. -/
def SlotStyle.tagged : SlotStyle := fun slot =>
  let name := slot.role.styleName
  "[" ++ name ++ "]" ++ StyleTag.escape slot.value ++ "[/" ++ name ++ "]"

/-- Why a diagnostic cannot be printed. -/
inductive PrintError where
  | offset (error : NegativeOffset)
  | template (error : TemplateError)
  | styleTag (error : StyleTagError)
deriving DecidableEq, Repr

/-- The complaint about a diagnostic that cannot be printed. -/
def PrintError.message : PrintError → Text
  | .offset error => error.message
  | .template error => error.message
  | .styleTag error => error.message

namespace LocatedDiagnostic

/-- Path and position, or path and offset if there is no source. -/
def location (diagnostic : LocatedDiagnostic) (source : Option Text) : Except PrintError Text := do
  let path := StyleTag.escape <| match diagnostic.path with
    | some (c :: path) => c :: path
    | _ => "<template>"
  match source with
  | none => return path ++ "@" ++ Text.ofInt diagnostic.start
  | some source =>
    let position ← (diagnostic.position source).mapError .offset
    return path ++ ":" ++ Text.ofNat position.line ++ ":" ++ Text.ofNat position.column

/-- The header line of a diagnostic with its style tags. -/
def taggedHeader (diagnostic : LocatedDiagnostic) (source : Option Text) :
    Except PrintError Text := do
  let location ← diagnostic.location source
  let message ← (diagnostic.message.render .tagged).mapError .template
  return "[cyan]" ++ location ++ "[/cyan]: [dim]\\[" ++ diagnostic.rule ++ "][/dim] " ++ message

/-- The header line of a diagnostic. -/
def header (diagnostic : LocatedDiagnostic) (source : Option Text) : Except PrintError Text := do
  let tagged ← diagnostic.taggedHeader source
  (Console.taggedLine tagged).mapError .styleTag

/-- The width of the underline: the length of the match, but not beyond the line, and at least
    one. -/
def underlineWidth (diagnostic : LocatedDiagnostic) (line : Text) (column : Nat) : Int :=
  max 1 (min (diagnostic.stop - diagnostic.start) ((line.length : Int) - column + 1))

/-- The line of the source. -/
def excerptLine (line : Text) : Text := Console.verbatimLine ("    " ++ line)

/-- The underline below the match, with its style tags. -/
def taggedUnderline (column : Nat) (width : Nat) : Text :=
  "    " ++ Text.repeated (column - 1) ' ' ++ "[red]" ++ Text.repeated width '^' ++ "[/red]"

/-- The line of the source and the underline below it. -/
def excerpt (diagnostic : LocatedDiagnostic) (source : Text) : Except PrintError Text := do
  let line ← (Source.line source diagnostic.start).mapError .offset
  let position ← (diagnostic.position source).mapError .offset
  let width := diagnostic.underlineWidth line position.column
  let underline ← (Console.taggedLine (taggedUnderline position.column width.toNat)).mapError
    .styleTag
  return excerptLine line ++ underline

end LocatedDiagnostic

/-- What was printed, and why printing ended early if it did. -/
structure Printed where
  output : Text
  error : Option PrintError
deriving DecidableEq, Repr

/-- Print one diagnostic. -/
def LocatedDiagnostic.print (diagnostic : LocatedDiagnostic) (source : Option Text)
    (showSource : Bool) : Printed :=
  match diagnostic.header source with
  | .error error => ⟨[], some error⟩
  | .ok header =>
    match source with
    | some source =>
      if showSource then
        match diagnostic.excerpt source with
        | .error error => ⟨header, some error⟩
        | .ok excerpt => ⟨header ++ excerpt, none⟩
      else ⟨header, none⟩
    | none => ⟨header, none⟩

/-- Print diagnostics in order, up to the first problem. -/
def printDiagnostics (source : Option Text) (showSource : Bool) :
    List LocatedDiagnostic → Printed
  | [] => ⟨[], none⟩
  | diagnostic :: rest =>
    match diagnostic.print source showSource with
    | ⟨output, some error⟩ => ⟨output, some error⟩
    | ⟨output, none⟩ =>
      let later := printDiagnostics source showSource rest
      ⟨output ++ later.output, later.error⟩

end TemplateAudit
