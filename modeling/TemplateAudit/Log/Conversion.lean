import TemplateAudit.Text.Quoted

namespace TemplateAudit

/-- A value of a log record. -/
inductive LogValue where
  | text (value : Text)
  | number (value : Int)
  /-- A value of which no more than its written form matters. -/
  | written (form : Text)
deriving DecidableEq, Repr

/-- How a value is shown in a log line. A conversion is a percent sign, a key in parentheses, flags, a width, a
    precision and a letter, of which only the sign and the letter must be there. Parentheses inside a key belong to it
    if they are balanced. A width or precision that is to be taken from a value is not supported, because a record has
    only named values. -/
structure Conversion where
  key : Option Text
  flags : Text
  width : Nat
  precision : Option Nat
  letter : Char
deriving DecidableEq, Repr

namespace Conversion

/-- The largest width and precision. -/
def maxExtent : Nat := 0x7FFFFFFF

/-- Read a key after its opening parenthesis; `depth` further ones are open. -/
def readKey? (depth : Nat) : Text → Option (Text × Text)
  | [] => none
  | c :: rest =>
    if c = ')' then
      match depth with
      | 0 => some ([], rest)
      | depth + 1 => (readKey? depth rest).map fun (key, after) => (c :: key, after)
    else
      (readKey? (if c = '(' then depth + 1 else depth) rest).map fun (key, after) =>
        (c :: key, after)

/-- The key at the start of a text, if there is one. An unclosed key is a fault. -/
def readKeyed? : Text → Option (Option Text × Text)
  | '(' :: rest => (readKey? 0 rest).map fun (key, after) => (some key, after)
  | text => some (none, text)

/-- Marks that change the way a value is shown. -/
def isFlag (c : Char) : Bool := ("-+ #0" : Text).contains c

/-- The number that stands at the start of a text, zero if there is none. One that is too large is a
    fault. -/
def readExtent? (text : Text) : Option (Nat × Text) :=
  let n := Text.digitsToNat (text.takeWhile Char.isDigit)
  if n ≤ maxExtent then some (n, text.dropWhile Char.isDigit) else none

/-- The precision at the start of a text, if there is one. -/
def readPrecision? : Text → Option (Option Nat × Text)
  | '.' :: rest => (readExtent? rest).map fun (n, after) => (some n, after)
  | text => some (none, text)

/-- A text without the size mark at its start, which has no meaning. -/
def dropSize : Text → Text
  | c :: rest => if ("hlL" : Text).contains c then rest else c :: rest
  | [] => []

/-- Read a conversion after its percent sign. -/
def read? (text : Text) : Option (Conversion × Text) := do
  let (key, rest) ← readKeyed? text
  let flags := rest.takeWhile isFlag
  let (width, rest) ← readExtent? (rest.dropWhile isFlag)
  let (precision, rest) ← readPrecision? rest
  match dropSize rest with
  | letter :: rest => some (⟨key, flags, width, precision, letter⟩, rest)
  | [] => none

/-- The text of a value in full. -/
def plain : LogValue → Text
  | .text value => value
  | .number n => Text.ofInt n
  | .written form => form

/-- The text of a value as it would be quoted, by the given way of quoting. -/
def quoted (quote : Text → Text) : LogValue → Text
  | .text value => quote value
  | value => plain value

/-- A text with spaces before it, or after it if the flags say so, up to the width. -/
def padded (conversion : Conversion) (text : Text) : Text :=
  let padding := Text.repeated (conversion.width - text.length) ' '
  if conversion.flags.contains '-' then text ++ padding else padding ++ text

/-- A text cut to the precision and padded. -/
def showText (conversion : Conversion) (text : Text) : Text :=
  conversion.padded <|
    match conversion.precision with
    | some n => text.take n
    | none => text

/-- What stands before the digits of a number. -/
def sign (conversion : Conversion) (n : Int) : Text :=
  if n < 0 then "-"
  else if conversion.flags.contains '+' then "+"
  else if conversion.flags.contains ' ' then " "
  else []

/-- The base of a number and the mark of the base. -/
def base? (letter : Char) : Option (Nat × Text) :=
  if ("diu" : Text).contains letter then some (10, [])
  else if letter = 'o' then some (8, "0o")
  else if letter = 'x' then some (16, "0x")
  else if letter = 'X' then some (16, "0X")
  else none

/-- The digits of a number, with zeros before them up to the precision. -/
def digits (conversion : Conversion) (base : Nat) (n : Int) : Text :=
  let digits := Nat.toDigits base n.natAbs
  let digits := if conversion.letter = 'X' then digits.map Char.toUpper else digits
  Text.repeated (conversion.precision.getD 0 - digits.length) '0' ++ digits

/-- A number in a base, padded with spaces or, after the sign, with zeros. -/
def showNumber (conversion : Conversion) (base : Nat) (mark : Text) (n : Int) : Text :=
  let before := conversion.sign n ++ if conversion.flags.contains '#' then mark else []
  let digits := conversion.digits base n
  let zeros :=
    if conversion.flags.contains '0' && !conversion.flags.contains '-' then
      conversion.width - (before.length + digits.length)
    else 0
  conversion.padded (before ++ Text.repeated zeros '0' ++ digits)

/-- The single character that a value stands for. -/
def character? : LogValue → Option Char
  | .text [c] => some c
  | .number (.ofNat n) => if n.isValidChar then some (Char.ofNat n) else none
  | _ => none

/-- The value as the conversion shows it; none if the letter does not fit the value. -/
def show? (conversion : Conversion) (value : LogValue) : Option Text :=
  match conversion.letter with
  | 's' => some (conversion.showText (plain value))
  | 'r' => some (conversion.showText (quoted Text.quoted value))
  | 'a' => some (conversion.showText (quoted Text.quotedAscii value))
  | 'c' => (character? value).map fun c => conversion.padded [c]
  | letter =>
    match base? letter, value with
    | some (base, mark), .number n => some (conversion.showNumber base mark n)
    | _, _ => none

end Conversion

end TemplateAudit
