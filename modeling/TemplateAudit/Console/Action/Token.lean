import TemplateAudit.Console.Action.Expression
import TemplateAudit.Text.Identifier
import TemplateAudit.Text.Printable
import TemplateAudit.Text.Utf8

namespace TemplateAudit

namespace Action

/-- Where a token stands: the line on which it ends, and how many bytes are in front of it on the
    line on which it starts. -/
structure Spot where
  line : Nat
  column : Nat
deriving DecidableEq, Repr

/-- Where the tokens of a reader come from. -/
structure Origin where
  /-- Whether they are an expression in a field of a text. -/
  inField : Bool
  /-- The line on which they start. -/
  line : Nat
  /-- The column of the field. -/
  column : Nat
deriving DecidableEq, Repr

/-- The column of something in the text as a whole. On the first line it is counted from the field. -/
def Origin.columnOf (origin : Origin) (spot : Spot) : Nat :=
  if spot.line = origin.line then origin.column + spot.column else spot.column

/-- A text in quotes. -/
structure Literal where
  bytes : Bool
  /-- Backslashes stand for themselves. -/
  raw : Bool
  /-- Braces enclose fields. -/
  formatted : Bool
  /-- What stands between the quotes. -/
  body : Text
  /-- The letters and quotes in front of that. -/
  opening : Text
  /-- The line on which it starts. -/
  line : Nat
  spot : Spot
deriving DecidableEq, Repr

/-- The literal as it is written. -/
def Literal.written (literal : Literal) : Text :=
  literal.opening ++ literal.body ++ literal.opening.filter fun c => c == '"' || c == '\''

/-- A bracket that is open, and the line on which it stands. -/
structure Bracket where
  opening : Char
  line : Nat
deriving DecidableEq, Repr

/-- Why there are no more tokens. -/
inductive Break where
  /-- The next token cannot be read. -/
  | wrong (fault : SyntaxFault)
  /-- There is no next token; an open bracket may be the reason. -/
  | lost (fault : SyntaxFault) (bracket : Option Bracket)
deriving DecidableEq, Repr

/-- A token. -/
inductive Token where
  | name (text : Text)
  | keyword (word : String)
  /-- A numeral, and why it cannot be read if that is so. -/
  | number (magnitude : Magnitude) (fault : Option SyntaxFault)
  | text (literal : Literal)
  | mark (sign : String)
  | newline
  | indent
  | unindent
  | stop
  | broken (reason : Break)
deriving DecidableEq, Repr

/-- A token, the line on which it starts, where it stands, and how many brackets are open after it. The scanner may
    have noticed the end of the text when it looked for the end of the token. A token that cannot be read ends the
    tokens. A reader hears of it when it gets as far as that. -/
structure Lexeme where
  token : Token
  line : Nat
  spot : Spot
  level : Nat
  atEnd : Bool
deriving DecidableEq, Repr

/-- Words that are no names. -/
def keywords : List String :=
  ["False", "None", "True", "and", "as", "assert", "async", "await", "break", "class", "continue",
   "def", "del", "elif", "else", "except", "finally", "for", "from", "global", "if", "import", "in",
   "is", "lambda", "nonlocal", "not", "or", "pass", "raise", "return", "try", "while", "with",
   "yield"]

/-- The token of a word. -/
def Token.ofWord (word : Text) : Token :=
  match keywords.find? fun known => known.toList == word with
  | some known => .keyword known
  | none => .name word.plainLetters

/-- Whether a character may stand in a word or would spoil one. -/
def mayBeInWord (c : Char) : Bool := c.isAlphanum || c == '_' || 0x80 ≤ c.toNat

/-- The complaint about a character that no token has. -/
def strayCharacter (c : Char) : SyntaxFault :=
  if isPrintable c then .invalidCharacter c else .unprintableCharacter c

/-- Check that a word is an identifier; the first character that no identifier may have there is
    reported. -/
def checkWord (word : Text) : Except SyntaxFault Unit :=
  match word with
  | [] => .ok ()
  | c :: rest =>
    if !isIdentifierStart c then .error (strayCharacter c)
    else
      match rest.find? (!isIdentifierRest ·) with
      | some c => .error (strayCharacter c)
      | none => .ok ()

/-- The value of a digit in a base of up to sixteen. -/
def digitValue (c : Char) : Nat :=
  if c.isDigit then c.toNat - 48 else if c.toNat < 97 then c.toNat - 55 else c.toNat - 87

/-- The value of digits in a base. -/
def digitsValue (base : Nat) (digits : Text) : Nat :=
  digits.foldl (fun n c => base * n + digitValue c) 0

/-- Whether a character is a digit in base sixteen. -/
def isHexDigit (c : Char) : Bool :=
  c.isDigit || ('a' ≤ c && c ≤ 'f') || ('A' ≤ c && c ≤ 'F')

namespace Numeric

/-- What follows the digits at the start of a text, which may be grouped by single underscores; none
    if an underscore has no digit after it. -/
def dropDigits? : Text → Option Text
  | [] => some []
  | c :: rest =>
    if c.isDigit then dropDigits? rest
    else if c ≠ '_' then some (c :: rest)
    else
      match rest with
      | d :: _ => if d.isDigit then dropDigits? rest else none
      | [] => none

/-- Whether a keyword that may follow a numeral without a gap stands at the start of a text. -/
def startsKeyword (text : Text) : Bool :=
  let word := text.takeWhile mayBeInWord
  ((["if", "in", "is"] : List String).any fun known => known.toList.isPrefixOf text)
    || ((["and", "else", "for", "not", "or"] : List String).any fun known => known.toList == word)

/-- The numeral ends before `text`, which must not go on like a word. -/
def ending (kind : Text) (text : Text) : Except SyntaxFault Text :=
  match text with
  | c :: _ => if mayBeInWord c && !startsKeyword text then .error (.badNumeral kind) else .ok text
  | [] => .ok []

/-- Skip the digits at the start of a text. -/
def skipDigits (text : Text) : Except SyntaxFault Text :=
  match dropDigits? text with
  | some rest => .ok rest
  | none => .error (.badNumeral "decimal")

/-- Read the end of a decimal numeral: perhaps the mark of an imaginary number. -/
def readSuffix (text : Text) : Except SyntaxFault (Bool × Text) :=
  match text with
  | 'j' :: rest | 'J' :: rest => (ending "imaginary" rest).map (true, ·)
  | text => (ending "decimal" text).map (false, ·)

/-- Read what follows the fraction of a decimal numeral. -/
def readExponent (text : Text) : Except SyntaxFault (Bool × Text) :=
  match text with
  | [] => .ok (false, [])
  | c :: rest =>
    if c ≠ 'e' && c ≠ 'E' then readSuffix text
    else
      match rest with
      | '+' :: d :: more | '-' :: d :: more =>
        if d.isDigit then skipDigits more >>= readSuffix else .error (.badNumeral "decimal")
      | ['+'] | ['-'] => .error (.badNumeral "decimal")
      | d :: more =>
        if d.isDigit then skipDigits more >>= readSuffix else (ending "decimal" text).map (false, ·)
      | [] => (ending "decimal" text).map (false, ·)

/-- Read what follows the point of a decimal numeral. -/
def readFraction (text : Text) : Except SyntaxFault (Bool × Text) :=
  match text with
  | c :: _ => if c.isDigit then skipDigits text >>= readExponent else readExponent text
  | [] => .ok (false, [])

/-- Read digits of a base other than ten after its mark. -/
def readBase (kind : Text) (isDigit : Char → Bool) (fuel : Nat) (text : Text) :
    Except SyntaxFault Text :=
  match fuel with
  | 0 => .ok text
  | fuel + 1 =>
    let digits := match text with
      | '_' :: rest => rest
      | _ => text
    match digits with
    | [] => .error (.badNumeral kind)
    | c :: rest =>
      if !isDigit c then
        .error (if c.isDigit then .badDigit c kind else .badNumeral kind)
      else
        match rest.dropWhile isDigit with
        | '_' :: after => readBase kind isDigit fuel ('_' :: after)
        | c :: after =>
          if c.isDigit then .error (.badDigit c kind) else ending kind (c :: after)
        | [] => .ok []

/-- The kinds of numerals. -/
inductive Spelling where
  | decimal
  | based (base : Nat)
  | pointed
  | imaginary
deriving DecidableEq, Repr

/-- The spelling of a decimal numeral with a point or an exponent. -/
def pointedOr (imaginary : Bool) : Spelling := if imaginary then .imaginary else .pointed

/-- Read what follows the whole part of a decimal numeral. -/
def readDecimal (text : Text) : Except SyntaxFault (Spelling × Text) :=
  match text with
  | '.' :: rest => (readFraction rest).map fun (imaginary, rest) => (pointedOr imaginary, rest)
  | c :: _ =>
    (readExponent text).map fun (imaginary, rest) =>
      let exponent := (c = 'e' || c = 'E') && rest.length < text.length
      (if imaginary || exponent then pointedOr imaginary else .decimal, rest)
  | [] => .ok (.decimal, [])

/-- Read a numeral at the start of a text. -/
def read (text : Text) : Except SyntaxFault (Spelling × Text) :=
  match text with
  | '.' :: rest => (readFraction rest).map fun (imaginary, rest) => (pointedOr imaginary, rest)
  | '0' :: c :: rest =>
    if c = 'x' || c = 'X' then
      (readBase "hexadecimal" isHexDigit (rest.length + 1) rest).map (.based 16, ·)
    else if c = 'o' || c = 'O' then
      (readBase "octal" (fun c => '0' ≤ c && c ≤ '7') (rest.length + 1) rest).map (.based 8, ·)
    else if c = 'b' || c = 'B' then
      (readBase "binary" (fun c => c == '0' || c == '1') (rest.length + 1) rest).map (.based 2, ·)
    else do
      let after ← skipDigits (c :: rest)
      let whole := (c :: rest).take ((c :: rest).length - after.length)
      let goesOn := match after with
        | d :: _ => d = '.' || d = 'e' || d = 'E' || d = 'j' || d = 'J'
        | [] => false
      if !goesOn && whole.any (fun c => c ≠ '0' && c ≠ '_') then throw .leadingZeros
      readDecimal after
  | text => skipDigits text >>= readDecimal

/-- The characters at the start of a text as far as a numeral can reach: a sign belongs to it only
    after the mark of an exponent. -/
def span (afterMark : Bool) : Text → Text
  | [] => []
  | c :: rest =>
    if mayBeInWord c || c = '.' || (afterMark && (c = '+' || c = '-')) then
      c :: span (c == 'e' || c == 'E') rest
    else []

/-- The token of a numeral spelled in a given way. Zeros alone are never too many. -/
def token (written : Text) : Spelling → Token
  | .imaginary => .number .imaginary none
  | .pointed => .number .real none
  | .based base =>
    .number (.whole (digitsValue base ((written.drop 2).filter isHexDigit))) none
  | .decimal =>
    let digits := written.filter Char.isDigit
    if Numeral.maxDigits < digits.length && written.head? ≠ some '0' then
      .number (.whole 0) (some (.numeralTooLong digits.length))
    else .number (.whole (Text.digitsToNat digits)) none

end Numeric

namespace Quotation

/-- The inside of a quoted text and what follows it; none if its end is missing. A quote of three
    characters may span lines. -/
def read? (quote : Char) (block : Bool) : Text → Option (Text × Text)
  | [] => none
  | ['\\'] => none
  | '\\' :: c :: rest => (read? quote block rest).map fun (body, after) => ('\\' :: c :: body, after)
  | c :: rest =>
    if c = quote && !block then some ([], rest)
    else if c = quote && [quote, quote].isPrefixOf rest then some ([], rest.drop 2)
    else if c = '\n' && !block then none
    else (read? quote block rest).map fun (body, after) => (c :: body, after)

/-- The lines of a text that has no end, up to where that is noticed. -/
def linesUntilLost (block : Bool) : Text → Nat
  | [] => 0
  | ['\\'] => 0
  | '\\' :: c :: rest => linesUntilLost block rest + if c = '\n' then 1 else 0
  | ['\n'] => 0
  | c :: rest =>
    if c = '\n' then if block then linesUntilLost block rest + 1 else 0
    else linesUntilLost block rest

/-- Whether letters may stand before a quote. -/
def mayPrecedeQuote (letters : Text) : Bool :=
  (["", "b", "u", "r", "f", "br", "rb", "fr", "rf"] : List String).any fun known =>
    known.toList == letters.map Char.toLower

/-- Read a quoted text whose letters have been read; it starts at the given line and column. -/
def read (letters : Text) (line column : Nat) (text : Text) :
    Except SyntaxFault (Literal × Text) :=
  match text with
  | [] => .error .invalid
  | quote :: rest =>
    let block := [quote, quote].isPrefixOf rest
    let inside := if block then rest.drop 2 else rest
    match read? quote block inside with
    | some (body, after) =>
      let known := letters.map Char.toLower
      .ok ({
        bytes := known.contains 'b', raw := known.contains 'r', formatted := known.contains 'f'
        body, opening := letters ++ Text.repeated (if block then 3 else 1) quote
        line, spot := ⟨line + body.count '\n', column⟩ }, after)
    | none =>
      let last := line + linesUntilLost block inside
      .error (if block then .unterminatedBlock last else .unterminatedText last)

end Quotation

end Action

end TemplateAudit
