import TemplateAudit.Text.Basic
import TemplateAudit.Text.Ranges

namespace TemplateAudit

/-- The blank code points: controls that move the cursor, the four information separators, and every
    kind of space. -/
def blankRanges : CodeRanges :=
  [(0x9, 0xD), (0x1C, 0x20), (0x85, 0x85), (0xA0, 0xA0), (0x1680, 0x1680), (0x2000, 0x200A),
   (0x2028, 0x2029), (0x202F, 0x202F), (0x205F, 0x205F), (0x3000, 0x3000)]

/-- White space, in the wide sense that includes the spaces outside ASCII. -/
def isBlank (c : Char) : Bool := blankRanges.contains c

/-- The text without blanks at either end. -/
def Text.trim (text : Text) : Text := Text.trimWhile isBlank text

end TemplateAudit
