import TemplateAudit.Message.Layout.Number
import TemplateAudit.Message.Part

namespace TemplateAudit

/-- The width from which on nothing can be laid out. -/
def Layout.widthLimit : Nat := 0x100000000

/-- Lay a part out as the text of a layout says. Texts and numbers read the layout each in its own way; other parts
    take none. No layout leaves a part as it is shown. -/
def Part.layOut (layout : Text) (part : Part) : Except TemplateError Text :=
  if layout.isEmpty then .ok part.shown
  else
    match part with
    | .text value => do
      let layout ← Layout.read .text 's' '<' layout
      layout.checkText
      if Layout.widthLimit ≤ layout.width.getD 0 then throw .tooWide
      return layout.text value
    | .number value => do
      let layout ← Layout.read .number 'd' '>' layout
      let parts ← layout.number .number value
      if Layout.widthLimit ≤ layout.width.getD 0 then throw .tooWide
      return layout.arrange parts
    | .truth value => do
      let layout ← Layout.read .truth 'd' '>' layout
      let parts ← layout.number .truth value.toNat
      if Layout.widthLimit ≤ layout.width.getD 0 then throw .tooWide
      return layout.arrange parts
    | part => .error (.layoutNotAllowed part.kindOf)

end TemplateAudit
