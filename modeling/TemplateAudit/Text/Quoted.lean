import TemplateAudit.Text.Printable
import TemplateAudit.Text.Basic

namespace TemplateAudit

namespace Text

/-- A numeric escape, as short as the code point allows. -/
def numericEscape (c : Char) : Text :=
  let code := c.toNat
  if code < 0x100 then ("\\x" : Text) ++ hex 2 code
  else if code < 0x10000 then ("\\u" : Text) ++ hex 4 code
  else ("\\U" : Text) ++ hex 8 code

/-- The quote in which a text is put. -/
def quoteFor (text : Text) : Char :=
  if text.contains '\'' && !text.contains '"' then '"' else '\''

/-- A character inside quotes; `shown` tells which characters stand for themselves. -/
def quotedChar (shown : Char → Bool) (quote c : Char) : Text :=
  if c = quote || c = '\\' then ['\\', c]
  else if c = '\n' then "\\n"
  else if c = '\r' then "\\r"
  else if c = '\t' then "\\t"
  else if shown c then [c]
  else numericEscape c

/-- The text in quotes, with escapes for the characters that are not shown. -/
def quotedBy (shown : Char → Bool) (text : Text) : Text :=
  let quote := quoteFor text
  quote :: (text.flatMap (quotedChar shown quote) ++ [quote])

/-- The text in quotes. Text is quoted with single quotes, or with double quotes if it holds a single quote and no
    double one. The quote in use, the backslash and every character that cannot be shown are written as escapes. -/
def quoted (text : Text) : Text := quotedBy isPrintable text

/-- The text in quotes, written with ASCII characters alone. -/
def quotedAscii (text : Text) : Text := quotedBy (fun c => isPrintable c && c.toNat < 0x80) text

end Text

end TemplateAudit
