import TemplateAudit.Message.Template

namespace TemplateAudit

/-- What a slot refers to. -/
inductive SlotRole where
  | old
  | new
  | context
deriving DecidableEq, Repr

/-- A named value with its role. -/
structure Slot where
  name : Text
  value : Text
  role : SlotRole
deriving DecidableEq, Repr

/-- A way of showing a slot. -/
abbrev SlotStyle := Slot → Text

/-- The value alone. -/
def SlotStyle.plain : SlotStyle := Slot.value

/-- A template and its slots. -/
structure Message where
  template : Text
  slots : List Slot
deriving DecidableEq, Repr

/-- The styled value of the last slot with the given name. -/
def Slot.lookUp? (style : SlotStyle) (slots : List Slot) (name : Text) : Option Text :=
  (slots.reverse.find? (·.name == name)).map style

/-- The message with every slot shown in the given style. -/
def Message.render (message : Message) (style : SlotStyle) : Except TemplateError Text :=
  Template.render (Slot.lookUp? style message.slots) message.template

end TemplateAudit
