import TemplateAudit.Json.Value
import TemplateAudit.Number.Numeral

namespace TemplateAudit

namespace Json

/-- White space between the tokens of JSON text. -/
def isGap (c : Char) : Bool := c == ' ' || c == '\t' || c == '\n' || c == '\r'

/-- The text from its first character that is not white space. -/
def skipGap (text : Text) : Text := text.dropWhile isGap

/-- How deep lists and objects may be nested that are not empty. -/
def maxDepth : Nat := 200

/-- The value of a hexadecimal digit. -/
def hexDigit? (c : Char) : Option Nat :=
  if '0' ≤ c && c ≤ '9' then some (c.toNat - '0'.toNat)
  else if 'a' ≤ c && c ≤ 'f' then some (c.toNat - 'a'.toNat + 10)
  else if 'A' ≤ c && c ≤ 'F' then some (c.toNat - 'A'.toNat + 10)
  else none

/-- The number spelled by four hexadecimal digits. -/
def hex4? (a b c d : Char) : Option Nat :=
  match hexDigit? a, hexDigit? b, hexDigit? c, hexDigit? d with
  | some a, some b, some c, some d => some (((a * 16 + b) * 16 + c) * 16 + d)
  | _, _, _, _ => none

/-- The character that one character after a backslash stands for. -/
def simpleEscape? (c : Char) : Option Char :=
  match c with
  | '"' => some '"'
  | '\\' => some '\\'
  | '/' => some '/'
  | 'b' => some (Char.ofNat 0x8)
  | 'f' => some (Char.ofNat 0xC)
  | 'n' => some '\n'
  | 'r' => some '\r'
  | 't' => some '\t'
  | _ => none

/-- Read the rest of a string after its opening quote. A numeric escape for the first half of a
    surrogate pair must be followed by one for the second half. -/
def readString? : Text → Option (Text × Text)
  | [] => none
  | '"' :: rest => some ([], rest)
  | '\\' :: 'u' :: a :: b :: c :: d :: '\\' :: 'u' :: e :: f :: g :: h :: rest =>
    match hex4? a b c d with
    | none => none
    | some unit =>
      if 0xD800 ≤ unit && unit < 0xDC00 then
        match hex4? e f g h with
        | none => none
        | some second =>
          if 0xDC00 ≤ second && second < 0xE000 then
            let code := 0x10000 + (unit - 0xD800) * 0x400 + (second - 0xDC00)
            (readString? rest).map fun (text, after) => (Char.ofNat code :: text, after)
          else none
      else if 0xDC00 ≤ unit && unit < 0xE000 then none
      else
        (readString? ('\\' :: 'u' :: e :: f :: g :: h :: rest)).map fun (text, after) =>
          (Char.ofNat unit :: text, after)
  | '\\' :: 'u' :: a :: b :: c :: d :: rest =>
    match hex4? a b c d with
    | none => none
    | some unit =>
      if 0xD800 ≤ unit && unit < 0xE000 then none
      else (readString? rest).map fun (text, after) => (Char.ofNat unit :: text, after)
  | '\\' :: c :: rest =>
    match simpleEscape? c with
    | none => none
    | some c => (readString? rest).map fun (text, after) => (c :: text, after)
  | c :: rest =>
    if c.toNat < 0x20 || c == '\\' then none
    else (readString? rest).map fun (text, after) => (c :: text, after)

/-- Read the digits after a mark that needs at least one. -/
def readDigits? (text : Text) : Option (Text × Text) :=
  match text.takeWhile Char.isDigit with
  | [] => none
  | digits => some (digits, text.dropWhile Char.isDigit)

/-- The fraction digits of a numeral, none if no point follows. -/
def readFraction? : Text → Option (Option Text × Text)
  | '.' :: rest => (readDigits? rest).map fun (digits, after) => (some digits, after)
  | text => some (none, text)

/-- The exponent of a numeral, none if no mark follows. -/
def readExponent? : Text → Option (Option Int × Text)
  | c :: rest =>
    if c == 'e' || c == 'E' then
      match rest with
      | '-' :: rest =>
        (readDigits? rest).map fun (digits, after) => (some (-(Text.digitsToNat digits : Int)), after)
      | '+' :: rest =>
        (readDigits? rest).map fun (digits, after) => (some (Text.digitsToNat digits : Int), after)
      | rest =>
        (readDigits? rest).map fun (digits, after) => (some (Text.digitsToNat digits : Int), after)
    else some (none, c :: rest)
  | [] => some (none, [])

/-- Read a numeral after its sign. A leading zero stands alone. -/
def readMagnitude? (negative : Bool) (text : Text) : Option (Json × Text) :=
  match readDigits? text with
  | none => none
  | some (whole, rest) =>
    if whole.head? == some '0' && 1 < whole.length then none
    else if Numeral.maxDigits < whole.length then none
    else
      match readFraction? rest with
      | none => none
      | some (fraction, rest) =>
        match readExponent? rest with
        | none => none
        | some (exponent, rest) =>
          match fraction, exponent with
          | none, none =>
            let n : Int := Text.digitsToNat whole
            some (.int (if negative then -n else n), rest)
          | fraction, exponent =>
            let places := fraction.getD []
            let value := Binary64.ofDecimal negative (Text.digitsToNat (whole ++ places))
              (exponent.getD 0 - places.length)
            some (.float value, rest)

/-- What follows `word` at the start of `text`. -/
def afterWord? (word text : Text) : Option Text := word.isPrefixOf? text

/-- Read a numeral. -/
def readNumber? (text : Text) : Option (Json × Text) :=
  match text with
  | '-' :: rest =>
    match afterWord? "Infinity" rest with
    | some after => some (.float (.infinity true), after)
    | none => readMagnitude? true rest
  | text => readMagnitude? false text

/-- The integer that is the whole of `text`. -/
def integer? (text : Text) : Option Int :=
  match readNumber? text with
  | some (.int n, []) => some n
  | _ => none

/-- Whether a numeral stands at the start of `text` that has too many digits. -/
def startsTooLong (text : Text) : Bool :=
  let unsigned := match text with
    | '-' :: rest => rest
    | _ => text
  unsigned.head? != some '0' && Numeral.maxDigits < (unsigned.takeWhile Char.isDigit).length

/-- Read a value that is neither a list nor an object. -/
def readScalar? (text : Text) : Option (Json × Text) :=
  match text with
  | [] => none
  | c :: rest =>
    match c with
    | '"' => (readString? rest).map fun (value, after) => (.string value, after)
    | 'n' => (afterWord? "ull" rest).map fun after => (.null, after)
    | 't' => (afterWord? "rue" rest).map fun after => (.bool true, after)
    | 'f' => (afterWord? "alse" rest).map fun after => (.bool false, after)
    | 'N' => (afterWord? "aN" rest).map fun after => (.float .nan, after)
    | 'I' => (afterWord? "nfinity" rest).map fun after => (.float (.infinity false), after)
    | _ => readNumber? (c :: rest)

mutual

/-- Read a value at the start of `text`, with `depth` levels of nesting left. Every reading takes
    fuel; the length of the text is enough, because each takes at least one character. -/
def readValue? (fuel depth : Nat) (text : Text) : Option (Json × Text) :=
  match fuel with
  | 0 => none
  | fuel + 1 =>
    match text with
    | '[' :: rest =>
      match skipGap rest with
      | ']' :: after => some (.array [], after)
      | rest =>
        if depth = 0 then none
        else (readItems? fuel (depth - 1) rest).map fun (items, after) => (.array items, after)
    | '\x7b' :: rest =>
      match skipGap rest with
      | '\x7d' :: after => some (.object [], after)
      | rest =>
        if depth = 0 then none
        else
          (readMembers? fuel (depth - 1) rest).map fun (members, after) => (.object members, after)
    | text => readScalar? text

/-- Read the items of a list up to its closing bracket; at least one stands at the start of
    `text`. -/
def readItems? (fuel depth : Nat) (text : Text) : Option (List Json × Text) :=
  match fuel with
  | 0 => none
  | fuel + 1 =>
    match readValue? fuel depth text with
    | none => none
    | some (item, rest) =>
      match skipGap rest with
      | ']' :: after => some ([item], after)
      | ',' :: rest =>
        (readItems? fuel depth (skipGap rest)).map fun (items, after) => (item :: items, after)
      | _ => none

/-- Read the members of an object up to its closing brace; at least one stands at the start of
    `text`. -/
def readMembers? (fuel depth : Nat) (text : Text) : Option (List (Text × Json) × Text) :=
  match fuel with
  | 0 => none
  | fuel + 1 =>
    match text with
    | '"' :: rest =>
      match readString? rest with
      | none => none
      | some (key, rest) =>
        match skipGap rest with
        | ':' :: rest =>
          match readValue? fuel depth (skipGap rest) with
          | none => none
          | some (value, rest) =>
            match skipGap rest with
            | '\x7d' :: after => some ([(key, value)], after)
            | ',' :: rest =>
              (readMembers? fuel depth (skipGap rest)).map fun (members, after) =>
                ((key, value) :: members, after)
            | _ => none
        | _ => none
    | _ => none

end

/-- The value that is the whole of `text`, white space around it apart. The grammar is the standard one with three
    more numerals, `NaN`, `Infinity` and `-Infinity`. Lists and objects that are not empty may be nested at most two
    hundred deep, and the part of a numeral before its point has a limited number of digits. -/
def read? (text : Text) : Option Json :=
  match readValue? (text.length + 1) maxDepth (skipGap text) with
  | none => none
  | some (value, rest) => if (skipGap rest).isEmpty then some value else none

end Json

end TemplateAudit
