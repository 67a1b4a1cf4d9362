import TemplateAudit.Message.Basic

namespace TemplateAudit

/-- Text with a slot behind each of its parts but the last. -/
structure Wording where
  parts : List (Text × Slot)
  last : Text

namespace Wording

/-- The text with its slots in a style. -/
def text (wording : Wording) (style : SlotStyle) : Text :=
  wording.parts.foldr (fun part rest => part.1 ++ (style part.2 ++ rest)) wording.last

/-- A character in front of the text. -/
def after (c : Char) : Wording → Wording
  | ⟨[], last⟩ => ⟨[], c :: last⟩
  | ⟨(before, slot) :: rest, last⟩ => ⟨(c :: before, slot) :: rest, last⟩

theorem text_after (c : Char) (wording : Wording) (style : SlotStyle) :
    (wording.after c).text style = c :: wording.text style := by
  match wording with
  | ⟨[], last⟩ => rfl
  | ⟨(before, slot) :: rest, last⟩ => rfl

end Wording

/-- Whatever the style of its slots, the message renders as the text. -/
def Message.SpelledBy (message : Message) (wording : Wording) : Prop :=
  ∀ style, message.render style = .ok (wording.text style)

end TemplateAudit
