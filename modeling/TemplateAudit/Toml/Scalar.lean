import TemplateAudit.Json.Read
import TemplateAudit.Text.Search
import TemplateAudit.Toml.Error
import TemplateAudit.Toml.Value

namespace TemplateAudit

namespace Toml

/-- White space within a line. -/
def isSpace (c : Char) : Bool := c == ' ' || c == '\t'

/-- White space and line ends. -/
def isSpaceOrNewline (c : Char) : Bool := isSpace c || c == '\n'

/-- The text from its first character that is no white space of a line. -/
def skipSpaces (text : Text) : Text := text.dropWhile isSpace

/-- Control characters, which may stand neither in texts nor in comments, the tab excepted. -/
def isIllegal (c : Char) : Bool := (c.toNat < 0x20 && c != '\t') || c.toNat == 0x7F

/-- The same for texts over several lines. -/
def isIllegalInLines (c : Char) : Bool := isIllegal c && c != '\n'

/-- Refuse the first illegal character of `body`, which stands at the start of `text`. -/
def checkLegal (illegal : Char → Bool) (body text : Text) : Except Error Unit :=
  let legal := body.takeWhile (!illegal ·)
  match body.drop legal.length with
  | [] => .ok ()
  | c :: _ => failAt (.invalidCharacter c) (text.drop legal.length)

/-- The text before the next delimiter, and what follows it. -/
def readUntil (delimiter : Text) (illegal : Char → Bool) (text : Text) : Except Error (Text × Text) :=
  match Text.splitAtFirst? delimiter text with
  | none => failAt (.delimiterExpected delimiter) []
  | some (body, after) => (checkLegal illegal body text).map fun _ => (body, after)

/-- Read the hexadecimal digits of a numeric escape. -/
def readHexEscape (count : Nat) (text : Text) : Except Error (Text × Text) :=
  let digits := text.take count
  let values := digits.filterMap Json.hexDigit?
  if values.length < count then failAt .badHexEscape text
  else
    let code := values.foldl (fun n d => 16 * n + d) 0
    let rest := text.drop count
    if code < 0xD800 || (0xE000 ≤ code && code < 0x110000) then .ok ([Char.ofNat code], rest)
    else failAt .notScalarValue rest

/-- Read an escape after its backslash. In a text over several lines a backslash at the end of a
    line takes the white space up to the next character with it. -/
def readEscape (lines : Bool) (text : Text) : Except Error (Text × Text) :=
  match text with
  | [] => failAt .badEscape []
  | c :: rest =>
    if lines && isSpaceOrNewline c then
      if c = '\n' then .ok ([], rest.dropWhile isSpaceOrNewline)
      else
        match skipSpaces rest with
        | [] => .ok ([], [])
        | '\n' :: after => .ok ([], after.dropWhile isSpaceOrNewline)
        | other => failAt .badEscape other
    else
      match c with
      | 'b' => .ok ([Char.ofNat 0x8], rest)
      | 't' => .ok (['\t'], rest)
      | 'n' => .ok (['\n'], rest)
      | 'f' => .ok ([Char.ofNat 0xC], rest)
      | 'r' => .ok (['\r'], rest)
      | '"' => .ok (['"'], rest)
      | '\\' => .ok (['\\'], rest)
      | 'u' => readHexEscape 4 rest
      | 'U' => readHexEscape 8 rest
      | _ => failAt .badEscape rest

/-- Read a text with escapes after its opening quotes. Every character takes fuel; the length of the
    text is enough. -/
def readBasic (fuel : Nat) (lines : Bool) (text : Text) : Except Error (Text × Text) :=
  match fuel, text with
  | _, [] => failAt .unterminatedText []
  | 0, text => failAt .unterminatedText text
  | fuel + 1, c :: rest =>
    if c = '"' && !lines then .ok ([], rest)
    else if ("\"\"\"" : Text).isPrefixOf text then .ok ([], text.drop 3)
    else if c = '\\' then do
      let (escaped, rest) ← readEscape lines rest
      let (body, rest) ← readBasic fuel lines rest
      return (escaped ++ body, rest)
    else if c != '"' && (if lines then isIllegalInLines c else isIllegal c) then
      failAt (.illegalCharacter c) text
    else do
      let (body, rest) ← readBasic fuel lines rest
      return (c :: body, rest)

/-- Up to two quotes that still belong to a text over several lines, although three have already
    ended it. -/
def readExtraQuotes (quote : Char) (text : Text) : Text × Text :=
  match text with
  | a :: b :: rest =>
    if a = quote then if b = quote then ([a, b], rest) else ([a], b :: rest) else ([], text)
  | [a] => if a = quote then ([a], []) else ([], text)
  | [] => ([], [])

/-- Without a line feed at its start. -/
def dropNewline : Text → Text
  | '\n' :: rest => rest
  | text => text

/-- Read a text of any of the four kinds. -/
def readText? (text : Text) : Option (Except Error (Text × Text)) :=
  match text with
  | '"' :: '"' :: '"' :: rest => some do
    let rest := dropNewline rest
    let (body, rest) ← readBasic rest.length true rest
    let (extra, rest) := readExtraQuotes '"' rest
    return (body ++ extra, rest)
  | '\'' :: '\'' :: '\'' :: rest => some do
    let (body, rest) ← readUntil "'''" isIllegalInLines (dropNewline rest)
    let (extra, rest) := readExtraQuotes '\'' rest
    return (body ++ extra, rest)
  | '"' :: rest => some (readBasic rest.length false rest)
  | '\'' :: rest => some (readUntil "'" isIllegal rest)
  | _ => none

/-- Read a number of exactly `count` digits between two bounds. -/
def readFixed? (count low high : Nat) (text : Text) : Option (Nat × Text) :=
  let digits := text.take count
  if digits.length = count && digits.all Char.isDigit then
    let n := Text.digitsToNat digits
    if low ≤ n && n ≤ high then some (n, text.drop count) else none
  else none

/-- Read a given character. -/
def readMark? (marks : Text) (text : Text) : Option (Char × Text) :=
  match text with
  | c :: rest => if marks.contains c then some (c, rest) else none
  | [] => none

/-- The part of a second after the point; digits after the sixth are dropped. -/
def readFraction (text : Text) : Nat × Text :=
  match text with
  | '.' :: rest =>
    match rest.takeWhile Char.isDigit with
    | [] => (0, text)
    | digits =>
      let six := digits.take 6
      (Text.digitsToNat (six ++ Text.repeated (6 - six.length) '0'), rest.dropWhile Char.isDigit)
  | _ => (0, text)

/-- Read a time of day. -/
def readTime? (text : Text) : Option (ClockTime × Text) := do
  let (hour, rest) ← readFixed? 2 0 23 text
  let (_, rest) ← readMark? ":" rest
  let (minute, rest) ← readFixed? 2 0 59 rest
  let (_, rest) ← readMark? ":" rest
  let (second, rest) ← readFixed? 2 0 59 rest
  let (microsecond, rest) := readFraction rest
  return (⟨hour, minute, second, microsecond⟩, rest)

/-- Read a distance from universal time. -/
def readOffset? (text : Text) : Option (Int × Text) := do
  let (mark, rest) ← readMark? "Zz+-" text
  if mark = 'Z' || mark = 'z' then return (0, rest)
  let (hours, rest) ← readFixed? 2 0 23 rest
  let (_, rest) ← readMark? ":" rest
  let (minutes, rest) ← readFixed? 2 0 59 rest
  let distance : Int := 60 * hours + minutes
  return (if mark = '-' then -distance else distance, rest)

/-- Read a date whose month and day are in range. -/
def readDate? (text : Text) : Option (CalendarDate × Text) := do
  let (year, rest) ← readFixed? 4 0 9999 text
  let (_, rest) ← readMark? "-" rest
  let (month, rest) ← readFixed? 2 1 12 rest
  let (_, rest) ← readMark? "-" rest
  let (day, rest) ← readFixed? 2 1 31 rest
  return (⟨year, month, day⟩, rest)

/-- The number of days of a month. -/
def daysOfMonth (year month : Nat) : Nat :=
  if month = 2 then
    if year % 4 = 0 && (year % 100 != 0 || year % 400 == 0) then 29 else 28
  else if [4, 6, 9, 11].contains month then 30
  else 31

/-- Whether the calendar has a date. There is no year zero. -/
def isCalendarDate (date : CalendarDate) : Bool :=
  1 ≤ date.year && date.day ≤ daysOfMonth date.year date.month

/-- Read a date, or a date and a time. -/
def readMoment? (text : Text) : Option (Except Error (Setting × Text)) := do
  let (date, rest) ← readDate? text
  let time := (readMark? "Tt " rest).bind fun (_, rest) => readTime? rest
  if !isCalendarDate date then return failAt .invalidDate text
  match time with
  | none => return .ok (.date date, rest)
  | some (time, rest) =>
    match readOffset? rest with
    | none => return .ok (.moment date time none, rest)
    | some (offset, rest) => return .ok (.moment date time (some offset), rest)

/-- Read digits of a given kind with single underscores between them. -/
def readGrouped? (digit : Char → Bool) (text : Text) : Option (Text × Text) :=
  match text with
  | [] => none
  | c :: rest =>
    if digit c then
      match rest with
      | '_' :: d :: more =>
        if digit d then (readGrouped? digit (d :: more)).map fun (digits, after) =>
          (c :: digits, after)
        else some ([c], rest)
      | d :: more =>
        if digit d then (readGrouped? digit (d :: more)).map fun (digits, after) =>
          (c :: digits, after)
        else some ([c], rest)
      | [] => some ([c], [])
    else none

/-- Read an integer in base sixteen, eight or two. -/
def readBased? (text : Text) : Option (Int × Text) := do
  let (base, digit) ← match text with
    | '0' :: 'x' :: _ => some (16, fun c => (Json.hexDigit? c).isSome)
    | '0' :: 'o' :: _ => some (8, fun c => '0' ≤ c && c ≤ '7')
    | '0' :: 'b' :: _ => some (2, fun c => c == '0' || c == '1')
    | _ => none
  let (digits, rest) ← readGrouped? digit (text.drop 2)
  let n := digits.foldl (fun n c => base * n + (Json.hexDigit? c).getD 0) 0
  return (n, rest)

/-- The whole part of a decimal number. A leading zero stands alone. -/
def readWhole? (text : Text) : Option (Text × Text) :=
  match text with
  | '0' :: rest => some (['0'], rest)
  | text => readGrouped? Char.isDigit text

/-- The exponent of a decimal number. -/
def readExponent? (text : Text) : Option (Int × Text) := do
  let (_, rest) ← readMark? "eE" text
  let (negative, rest) := match rest with
    | '-' :: rest => (true, rest)
    | '+' :: rest => (false, rest)
    | rest => (false, rest)
  let (digits, rest) ← readGrouped? Char.isDigit rest
  let n : Int := Text.digitsToNat digits
  return (if negative then -n else n, rest)

/-- Read a decimal integer or a number with a fraction or an exponent. -/
def readDecimal? (text : Text) : Option (Except Error (Setting × Text)) := do
  let (negative, unsigned) := match text with
    | '-' :: rest => (true, rest)
    | '+' :: rest => (false, rest)
    | rest => (false, rest)
  let (whole, rest) ← readWhole? unsigned
  let fraction := match rest with
    | '.' :: rest => readGrouped? Char.isDigit rest
    | _ => none
  let afterFraction := (fraction.map (·.2)).getD rest
  let exponent := readExponent? afterFraction
  if fraction.isNone && exponent.isNone then
    if Numeral.maxDigits < whole.length then
      return failAt (.integerTooLong whole.length) text
    let n : Int := Text.digitsToNat whole
    return .ok (.int (if negative then -n else n), rest)
  let places := (fraction.map (·.1)).getD []
  let power := (exponent.map (·.1)).getD 0
  let value := Binary64.ofDecimal negative (Text.digitsToNat (whole ++ places)) (power - places.length)
  return .ok (.float value, (exponent.map (·.2)).getD afterFraction)

/-- The words for numbers that are infinite or none at all. -/
def specialNumbers : List (Text × Binary64) :=
  [("inf", .infinity false), ("nan", .nan), ("+inf", .infinity false), ("-inf", .infinity true),
   ("+nan", .nan), ("-nan", .nan)]

/-- Read one of the given words. -/
def readWord? {α : Type} (words : List (Text × α)) (text : Text) : Option (α × Text) :=
  words.findSome? fun (word, value) => (word.isPrefixOf? text).map fun rest => (value, rest)

/-- Read a truth value. -/
def readTruth? (text : Text) : Option (Except Error (Setting × Text)) :=
  (readWord? [("true", true), ("false", false)] text).map fun (value, rest) =>
    .ok (.bool value, rest)

/-- Read a number of any kind. -/
def readNumber? (text : Text) : Option (Except Error (Setting × Text)) :=
  match readBased? text with
  | some (n, rest) => some (.ok (.int n, rest))
  | none =>
    match readDecimal? text with
    | some reading => some reading
    | none => (readWord? specialNumbers text).map fun (value, rest) => .ok (.float value, rest)

/-- Read a value that is neither a list nor a table. Line ends are line feeds: a document is read after its line ends
    have been made uniform. -/
def readScalar (text : Text) : Except Error (Setting × Text) :=
  match readText? text with
  | some reading => reading.map fun (value, rest) => (.text value, rest)
  | none =>
    match readTruth? text with
    | some reading => reading
    | none =>
      match readMoment? text with
      | some reading => reading
      | none =>
        match readTime? text with
        | some (time, rest) => .ok (.time time, rest)
        | none =>
          match readNumber? text with
          | some reading => reading
          | none => failAt .invalidValue text

end Toml

end TemplateAudit
