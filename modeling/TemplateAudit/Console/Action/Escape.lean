import TemplateAudit.Console.Action.Token

namespace TemplateAudit

namespace Action

namespace Escape

/-- A character beyond ASCII as an escape of eight digits. -/
def written (c : Char) : Text := "\\U" ++ Text.hex 8 c.toNat

/-- A text in ASCII: other characters are written as escapes, and so is a backslash that has nothing
    else after it. -/
def inAscii : Text → Text
  | [] => []
  | ['\\'] => "\\u005c"
  | '\\' :: c :: rest =>
    if 0x80 ≤ c.toNat then "\\u005c" ++ written c ++ inAscii rest
    else '\\' :: c :: inAscii rest
  | c :: rest => if 0x80 ≤ c.toNat then written c ++ inAscii rest else c :: inAscii rest

/-- The digits that an escape has after its letter, and the complaint if they are missing. -/
def digitsAfter? (c : Char) : Option (Nat × Text) :=
  if c = 'x' then some (2, "truncated \\xXX escape")
  else if c = 'u' then some (4, "truncated \\uXXXX escape")
  else if c = 'U' then some (8, "truncated \\UXXXXXXXX escape")
  else none

/-- The first escape in an ASCII text that cannot be read; `position` counts from the start of the
    whole text, and `isName` tells which names characters have. Every step takes a character, so the
    length of the text is fuel enough. -/
def faultIn? (isName : Text → Bool) (fuel position : Nat) (text : Text) : Option SyntaxFault :=
  match fuel, text with
  | fuel + 1, '\\' :: c :: rest =>
    match digitsAfter? c with
    | some (count, reason) =>
      let digits := (rest.take count).takeWhile isHexDigit
      if digits.length < count then some (.badEscape position (position + 1 + digits.length) reason)
      else if 0x10FFFF < digitsValue 16 digits then
        some (.badEscape position (position + 1 + count) "illegal Unicode character")
      else faultIn? isName fuel (position + 2 + count) (rest.drop count)
    | none =>
      if c = 'N' then
        match rest with
        | '\x7b' :: named =>
          let name := named.takeWhile (· != '\x7d')
          match named.drop name.length with
          | _ :: after =>
            if name.isEmpty then
              some (.badEscape position (position + 2) "malformed \\N character escape")
            else if isName name then faultIn? isName fuel (position + 4 + name.length) after
            else
              some (.badEscape position (position + 3 + name.length)
                "unknown Unicode character name")
          | [] =>
            some (.badEscape position (position + 2 + name.length)
              "malformed \\N character escape")
        | _ => some (.badEscape position (position + 1) "malformed \\N character escape")
      else faultIn? isName fuel (position + 2) rest
  | fuel + 1, _ :: rest => faultIn? isName fuel (position + 1) rest
  | _, _ => none

/-- The first escape in a text that cannot be read. A complaint about an escape gives its position in the text when
    every character beyond ASCII has been written as an escape of its own. -/
def fault? (isName : Text → Bool) (text : Text) : Option SyntaxFault :=
  if text.contains '\\' then
    let text := inAscii text
    faultIn? isName text.length 0 text
  else none

/-- The first escape in quoted bytes that cannot be read. -/
def byteFault? (position : Nat) : Text → Option SyntaxFault
  | '\\' :: 'x' :: a :: b :: rest =>
    if isHexDigit a && isHexDigit b then byteFault? (position + 4) rest
    else some (.badByteEscape position)
  | ['\\', 'x'] | ['\\', 'x', _] => some (.badByteEscape position)
  | '\\' :: _ :: rest => byteFault? (position + 2) rest
  | _ :: rest => byteFault? (position + 1) rest
  | [] => none

end Escape

end Action

end TemplateAudit
