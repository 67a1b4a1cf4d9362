import TemplateAudit.Rule.Basic
import TemplateAudit.Source.Fragment
import TemplateAudit.Source.Position

namespace TemplateAudit

/-- A match of a rule in the text of a fragment. -/
structure Diagnostic where
  rule : Text
  start : Int
  stop : Int
  message : Message
deriving DecidableEq, Repr

/-- A match of a rule in the buffer that holds the fragment. -/
structure LocatedDiagnostic where
  rule : Text
  start : Int
  stop : Int
  message : Message
  path : Option Text
deriving DecidableEq, Repr

/-- The match of a rule at an offset. -/
def Rule.diagnose (rule : Rule) (offset : Int) : Diagnostic :=
  ⟨rule.name, offset, offset + rule.token.length, rule.message⟩

/-- The diagnostic moved to the place of its fragment. -/
def Diagnostic.locate (diagnostic : Diagnostic) (fragment : Fragment) : LocatedDiagnostic :=
  { rule := diagnostic.rule
    start := fragment.baseOffset + diagnostic.start
    stop := fragment.baseOffset + diagnostic.stop
    message := diagnostic.message
    path := fragment.path }

/-- Line and column of the start of a diagnostic. -/
def LocatedDiagnostic.position (diagnostic : LocatedDiagnostic) (source : Text) :
    Except NegativeOffset Position :=
  Source.position source diagnostic.start

end TemplateAudit
