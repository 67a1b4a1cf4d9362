import TemplateAudit.Text.Basic

namespace TemplateAudit

namespace Console

/-- The controls that are never printed: bell, backspace, vertical tab, form feed and carriage
    return. -/
def isDropped (c : Char) : Bool := [0x7, 0x8, 0xB, 0xC, 0xD].contains c.toNat

end Console

end TemplateAudit
