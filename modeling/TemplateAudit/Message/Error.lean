import TemplateAudit.Message.Kind
import TemplateAudit.Text.Quoted

namespace TemplateAudit

/-- What stands between the brackets of an index. -/
inductive FieldIndex where
  | number (n : Nat)
  | key (name : Text)
deriving DecidableEq, Repr

/-- An index as it is shown, a key by the given way of quoting. -/
def FieldIndex.shownBy (quote : Text → Text) : FieldIndex → Text
  | number n => Text.ofNat n
  | key name => quote name

/-- Why a template cannot be rendered. -/
inductive TemplateError where
  /-- An opening brace at the very end. -/
  | loneOpening
  /-- A closing brace that is not doubled. -/
  | loneClosing
  /-- An opening brace inside a field name. -/
  | openingInName
  /-- A field name that runs to the end of the template. -/
  | unclosedField
  /-- Nothing after the exclamation mark. -/
  | conversionMissing
  /-- Something other than a colon or a closing brace after a conversion. -/
  | colonExpected
  /-- A layout that runs to the end of the template. -/
  | unclosedLayout
  /-- Fields nested too deep. -/
  | tooDeep
  /-- A field that names no slot. -/
  | unknownSlot (name : Text)
  /-- A field that is empty or a number; slots have names only. -/
  | positional (index : Nat)
  /-- A number too long for an index or a width. -/
  | numberTooLong
  /-- Nothing between the marks of an index or after a point. -/
  | emptyPart
  /-- Something other than a point or an opening bracket after an index. -/
  | badPartStart
  /-- An index without closing bracket. -/
  | unclosedIndex
  /-- A part after a point that its owner does not have. -/
  | noSuchPart (owner name : Text)
  /-- The members that a kind leaves open; no kind leaves one open. -/
  | noOpenMembers
  /-- An index into a text that is not a number. -/
  | indexNotNumber
  /-- An index into a list that is not a number. -/
  | placeNotNumber
  /-- An index beyond the end of a text. -/
  | indexOutOfRange
  /-- An index beyond the end of a list. -/
  | placeOutOfRange
  /-- An index under which a mapping has nothing. -/
  | noSuchKey (index : FieldIndex)
  /-- A second argument for a kind that has one. -/
  | argumentTwice (owner : Text)
  /-- An index into something that has no members. -/
  | notIndexable (owner : Text)
  /-- A conversion other than `r`, `s` and `a`. -/
  | unknownConversion (conversion : Char)
  /-- A precision mark without digits. -/
  | precisionMissing
  /-- A layout with characters left over. -/
  | invalidLayout (layout : Text) (kind : Kind)
  /-- Two different marks for grouping digits. -/
  | bothGroupings
  /-- A grouping mark with a type that has no digits. -/
  | groupingWithType (grouping type : Char)
  /-- A layout type that values of the kind do not have. -/
  | unknownType (type : Char) (kind : Kind)
  /-- A sign in the layout of text. -/
  | signNotAllowed
  /-- A space as sign in the layout of text. -/
  | spaceNotAllowed
  /-- The request to drop the sign of zero in the layout of text. -/
  | zeroCoercionNotAllowed
  /-- The request for an alternate form in the layout of text. -/
  | alternateNotAllowed
  /-- Padding after the sign in the layout of text. -/
  | signPaddingNotAllowed
  /-- A precision in the layout of an integer. -/
  | precisionNotAllowed
  /-- The request to drop the sign of zero in the layout of an integer. -/
  | integerZeroCoercion
  /-- A sign in the layout of a character given by its number. -/
  | signWithCharacter
  /-- The request for an alternate form of a character given by its number. -/
  | alternateWithCharacter
  /-- A number that is no character's. -/
  | noSuchCharacter
  /-- More decimal places than can be written. -/
  | precisionTooBig
  /-- A layout for something that is neither text nor number. -/
  | layoutNotAllowed (kind : Kind)
  /-- A width for which there is no room. -/
  | tooWide
deriving DecidableEq, Repr

/-- A character in a message: itself, or its code if it is not a visible ASCII character. -/
def shownOrCode (limit : Nat) (c : Char) : Text :=
  if 32 < c.toNat && c.toNat < limit then [c] else ("\\x" : Text) ++ Nat.toDigits 16 c.toNat

/-- What is reported for a template that cannot be rendered. -/
def TemplateError.message : TemplateError → Text
  | .loneOpening => "Single '\x7b' encountered in format string"
  | .loneClosing => "Single '\x7d' encountered in format string"
  | .openingInName => "unexpected '\x7b' in field name"
  | .unclosedField => "expected '\x7d' before end of string"
  | .conversionMissing => "end of string while looking for conversion specifier"
  | .colonExpected => "expected ':' after conversion specifier"
  | .unclosedLayout => "unmatched '\x7b' in format spec"
  | .tooDeep => "Max string recursion exceeded"
  | .unknownSlot name => name.quoted
  | .positional index =>
    "Replacement index " ++ Text.ofNat index ++ " out of range for positional args tuple"
  | .numberTooLong => "Too many decimal digits in format string"
  | .emptyPart => "Empty attribute in format string"
  | .badPartStart => "Only '.' or '[' may follow ']' in format field specifier"
  | .unclosedIndex => "Missing ']' in format string"
  | .noSuchPart owner name => owner ++ " has no attribute '" ++ name ++ "'"
  | .noOpenMembers => "__abstractmethods__"
  | .indexNotNumber => "string indices must be integers, not 'str'"
  | .placeNotNumber => "tuple indices must be integers or slices, not str"
  | .indexOutOfRange => "string index out of range"
  | .placeOutOfRange => "tuple index out of range"
  | .noSuchKey index => index.shownBy Text.quoted
  | .argumentTwice owner => owner ++ " is not a generic class"
  | .notIndexable owner => owner ++ " is not subscriptable"
  | .unknownConversion conversion => "Unknown conversion specifier " ++ shownOrCode 127 conversion
  | .precisionMissing => "Format specifier missing precision"
  | .invalidLayout layout kind =>
    "Invalid format specifier '" ++ layout ++ "' for object of type '" ++ kind.name ++ "'"
  | .bothGroupings => "Cannot specify both ',' and '_'."
  | .groupingWithType grouping type =>
    "Cannot specify '" ++ [grouping] ++ "' with '" ++ shownOrCode 128 type ++ "'."
  | .unknownType type kind =>
    "Unknown format code '" ++ shownOrCode 128 type ++ "' for object of type '" ++ kind.name ++ "'"
  | .signNotAllowed => "Sign not allowed in string format specifier"
  | .spaceNotAllowed => "Space not allowed in string format specifier"
  | .zeroCoercionNotAllowed =>
    "Negative zero coercion (z) not allowed in string format specifier"
  | .alternateNotAllowed => "Alternate form (#) not allowed in string format specifier"
  | .signPaddingNotAllowed => "'=' alignment not allowed in string format specifier"
  | .precisionNotAllowed => "Precision not allowed in integer format specifier"
  | .integerZeroCoercion =>
    "Negative zero coercion (z) not allowed in integer format specifier"
  | .signWithCharacter => "Sign not allowed with integer format specifier 'c'"
  | .alternateWithCharacter =>
    "Alternate form (#) not allowed with integer format specifier 'c'"
  | .noSuchCharacter => "%c arg not in range(0x110000)"
  | .precisionTooBig => "precision too big"
  | .layoutNotAllowed kind => "unsupported format string passed to " ++ kind.name ++ ".__format__"
  | .tooWide => []

end TemplateAudit
