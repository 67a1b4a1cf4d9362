import TemplateAudit.Json.Value
import TemplateAudit.Number.Shortest

namespace TemplateAudit

namespace Json

/-- A character inside a JSON string. -/
def escapeChar (c : Char) : Text :=
  if c = '"' then "\\\""
  else if c = '\\' then "\\\\"
  else if c.toNat = 0x8 then "\\b"
  else if c.toNat = 0xC then "\\f"
  else if c = '\n' then "\\n"
  else if c = '\r' then "\\r"
  else if c = '\t' then "\\t"
  else if c.toNat < 0x20 then ("\\u" : Text) ++ Text.hex 4 c.toNat
  else [c]

/-- A JSON string with its quotes. -/
def quote (text : Text) : Text := '"' :: (text.flatMap escapeChar ++ ['"'])

/-- A line break and the indentation of `level`. -/
def lineBreak (level : Nat) : Text := '\n' :: Text.repeated (2 * level) ' '

mutual

/-- A value whose first line is already indented to `level`. -/
def renderAt (level : Nat) : Json → Text
  | .null => "null"
  | .bool true => "true"
  | .bool false => "false"
  | .int n => Text.ofInt n
  | .float (.finite negative mantissa exponent) => (Binary64.finite negative mantissa exponent).text
  | .float _ => "null"
  | .string text => quote text
  | .array [] => "[]"
  | .array (item :: rest) =>
    '[' :: (lineBreak (level + 1) ++ renderAt (level + 1) item ++ renderItems level rest)
  | .object [] => "\x7b\x7d"
  | .object ((key, value) :: rest) =>
    '\x7b' :: (lineBreak (level + 1) ++ quote key ++ ": " ++ renderAt (level + 1) value
      ++ renderMembers level rest)

/-- The items after the first one and the closing bracket. -/
def renderItems (level : Nat) : List Json → Text
  | [] => lineBreak level ++ "]"
  | item :: rest =>
    ',' :: (lineBreak (level + 1) ++ renderAt (level + 1) item ++ renderItems level rest)

/-- The members after the first one and the closing brace. -/
def renderMembers (level : Nat) : List (Text × Json) → Text
  | [] => lineBreak level ++ "\x7d"
  | (key, value) :: rest =>
    ',' :: (lineBreak (level + 1) ++ quote key ++ ": " ++ renderAt (level + 1) value
      ++ renderMembers level rest)

end

theorem renderAt_string (level : Nat) (text : Text) : renderAt level (.string text) = quote text := rfl

theorem renderAt_array_cons (level : Nat) (item : Json) (rest : List Json) :
    renderAt level (.array (item :: rest)) =
      '[' :: (lineBreak (level + 1) ++ renderAt (level + 1) item ++ renderItems level rest) := rfl

theorem renderAt_object_cons (level : Nat) (member : Text × Json) (rest : List (Text × Json)) :
    renderAt level (.object (member :: rest)) =
      '\x7b' :: (lineBreak (level + 1) ++ quote member.1 ++ ": " ++ renderAt (level + 1) member.2
        ++ renderMembers level rest) := rfl

/-- The text of a value. JSON text: two spaces of indentation for each level, one item or member to a line, and
    nothing between the brackets of an empty list or object. Only quotes, backslashes and control characters are
    escaped. -/
def render (value : Json) : Text := renderAt 0 value

end Json

end TemplateAudit
