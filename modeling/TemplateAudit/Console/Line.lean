import TemplateAudit.Console.StyleTag
import TemplateAudit.Text.Width

namespace TemplateAudit

namespace Console

/-- The distance between tab stops. -/
def tabStop : Nat := 8

/-- The pieces of a line with the tabs between them filled up; `column` columns stand before the
    first piece. A tab takes at least one column, and a piece is measured together with it. -/
def fillTabs (column : Nat) : List Text → Text
  | [] => []
  | [piece] => piece
  | piece :: rest =>
    let reached := column + Text.columns (piece ++ [' '])
    let fill := (tabStop - reached % tabStop) % tabStop
    piece ++ Text.repeated (fill + 1) ' ' ++ fillTabs (reached + fill) rest

/-- A text with the tabs of each of its lines filled up with spaces. -/
def expandTabs (text : Text) : Text :=
  Text.join ['\n'] ((Text.splitAll '\n' text).map fun line => fillTabs 0 (Text.splitAll '\t' line))

/-- The line that shows a text as it is. Whatever is printed loses the controls that would move the cursor, has its
    tabs filled up with spaces to the next multiple of eight columns, and is ended by a line feed. -/
def verbatimLine (text : Text) : Text :=
  expandTabs (text.filter (!isDropped ·)) ++ "\n"

/-- The line that shows a text in which only emoji codes have a meaning. -/
def untaggedLine (text : Text) : Text := verbatimLine (Emoji.replaceCodes text)

/-- The line that shows a text with style tags and emoji codes. -/
def taggedLine (text : Text) : Except StyleTagError Text :=
  (StyleTag.shown text).map verbatimLine

end Console

end TemplateAudit
