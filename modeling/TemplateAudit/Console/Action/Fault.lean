import TemplateAudit.Number.Numeral

namespace TemplateAudit

namespace Action

/-- What is wrong with the fields of a text. -/
inductive FieldFault where
  /-- A closing brace outside of fields that is not doubled. -/
  | singleBrace
  /-- A field without its closing brace. -/
  | braceExpected
  | empty
  /-- A field that starts with the mark that should follow its expression. -/
  | expressionRequired (mark : Char)
  | badConversion
  | nestedTooDeeply
  | backslash
  | comment
  | unterminatedText
  /-- A bracket in a field that has no partner. -/
  | unmatched (bracket : Char)
  | mismatched (closing opening : Char)
  | tooManyBrackets
  /-- A layout with a closing brace where the text should end. -/
  | endExpected
deriving DecidableEq, Repr

/-- Why a text is no expression. -/
inductive SyntaxFault where
  | invalid
  | commaMissing
  /-- A bracket that is open at the end. -/
  | neverClosed (bracket : Char)
  /-- A closing bracket where none is open. -/
  | unmatched (bracket : Char)
  /-- A closing bracket of another kind than the open one, whose line is given if it is another one.
      -/
  | mismatched (closing opening : Char) (line : Option Nat)
  | tooManyBrackets
  | unterminatedText (line : Nat)
  | unterminatedBlock (line : Nat)
  | invalidCharacter (c : Char)
  | unprintableCharacter (c : Char)
  | badNumeral (kind : Text)
  | badDigit (digit : Char) (kind : Text)
  | leadingZeros
  | numeralTooLong (digits : Nat)
  /-- Something after a backslash that should end its line. -/
  | badContinuation
  | unexpectedEnd
  | unexpectedIndent
  | unexpectedUnindent
  | unindentMismatch
  | mixedIndentation
  | tooManyIndents
  /-- An escape that cannot be read, from its first to its last position. -/
  | badEscape (first last : Nat) (reason : Text)
  | badByteEscape (position : Nat)
  | bytesNotAscii
  | mixedTexts
  | elseMissing
  | parenthesesMissing (callee : Text)
  | equalsSign
  | notAssignableHere (title : Text)
  | notAssignable (title : Text)
  | notNameable (title : Text)
  | assignmentInArgument
  | starred
  | doubleStarred
  | keyColonMissing
  | valueMissing
  | starredValue
  | positionalAfterKeyword
  | positionalAfterUnpacking
  | unpackingAfterUnpacking
  | generatorNotAlone
  | unpackedComprehension
  | unpackedDictComprehension
  | comprehensionParentheses
  | defaultMissing
  | defaultBefore
  | parenthesizedParameters
  | nothingBeforeSlash
  | slashTwice
  | slashAfterStar
  | slashCommaMissing
  | bareStar
  | starDefault
  | starTwice
  | keywordsDefault
  | parameterAfterKeywords
  | field (fault : FieldFault)
  /-- Something wrong with an expression in a field of a text. -/
  | inField (fault : SyntaxFault)
deriving DecidableEq, Repr

/-- A code point with at least four digits. -/
def codePoint (c : Char) : Text := "U+" ++ (Text.hex 4 c.toNat).map Char.toUpper

/-- The complaint about the fields of a text. -/
def FieldFault.message : FieldFault → Text
  | .singleBrace => "f-string: single '\x7d' is not allowed"
  | .braceExpected => "f-string: expecting '\x7d'"
  | .empty => "f-string: empty expression not allowed"
  | .expressionRequired mark => "f-string: expression required before '" ++ [mark] ++ "'"
  | .badConversion =>
    "f-string: invalid conversion character: expected 's', 'r', or 'a'"
  | .nestedTooDeeply => "f-string: expressions nested too deeply"
  | .backslash => "f-string expression part cannot include a backslash"
  | .comment => "f-string expression part cannot include '#'"
  | .unterminatedText => "f-string: unterminated string"
  | .unmatched bracket => "f-string: unmatched '" ++ [bracket] ++ "'"
  | .mismatched closing opening =>
    "f-string: closing parenthesis '" ++ [closing] ++ "' does not match opening parenthesis '"
      ++ [opening] ++ "'"
  | .tooManyBrackets => "f-string: too many nested parenthesis"
  | .endExpected => "f-string: unexpected end of string"

/-- The complaint about a text that is no expression. -/
def SyntaxFault.message : SyntaxFault → Text
  | .invalid => "invalid syntax"
  | .commaMissing => "invalid syntax. Perhaps you forgot a comma?"
  | .neverClosed bracket => "'" ++ [bracket] ++ "' was never closed"
  | .unmatched bracket => "unmatched '" ++ [bracket] ++ "'"
  | .mismatched closing opening line =>
    "closing parenthesis '" ++ [closing] ++ "' does not match opening parenthesis '" ++ [opening]
      ++ "'" ++ match line with
        | some line => " on line " ++ Text.ofNat line
        | none => []
  | .tooManyBrackets => "too many nested parentheses"
  | .unterminatedText line =>
    "unterminated string literal (detected at line " ++ Text.ofNat line ++ ")"
  | .unterminatedBlock line =>
    "unterminated triple-quoted string literal (detected at line " ++ Text.ofNat line ++ ")"
  | .invalidCharacter c => "invalid character '" ++ [c] ++ "' (" ++ codePoint c ++ ")"
  | .unprintableCharacter c => "invalid non-printable character " ++ codePoint c
  | .badNumeral kind => "invalid " ++ kind ++ " literal"
  | .badDigit digit kind => "invalid digit '" ++ [digit] ++ "' in " ++ kind ++ " literal"
  | .leadingZeros =>
    ("leading zeros in decimal integer literals are not permitted; " : Text)
      ++ "use an 0o prefix for octal integers"
  | .numeralTooLong digits =>
    Numeral.unreadable digits ++ " - Consider hexadecimal for huge integer literals to avoid "
      ++ "decimal conversion limits."
  | .badContinuation => "unexpected character after line continuation character"
  | .unexpectedEnd => "unexpected EOF while parsing"
  | .unexpectedIndent => "unexpected indent"
  | .unexpectedUnindent => "unexpected unindent"
  | .unindentMismatch => "unindent does not match any outer indentation level"
  | .mixedIndentation => "inconsistent use of tabs and spaces in indentation"
  | .tooManyIndents => "too many levels of indentation"
  | .badEscape first last reason =>
    "(unicode error) 'unicodeescape' codec can't decode bytes in position " ++ Text.ofNat first
      ++ "-" ++ Text.ofNat last ++ ": " ++ reason
  | .badByteEscape position =>
    "(value error) invalid \\x escape at position " ++ Text.ofNat position
  | .bytesNotAscii => "bytes can only contain ASCII literal characters"
  | .mixedTexts => "cannot mix bytes and nonbytes literals"
  | .elseMissing => "expected 'else' after 'if' expression"
  | .parenthesesMissing callee =>
    "Missing parentheses in call to '" ++ callee ++ "'. Did you mean " ++ callee ++ "(...)?"
  | .equalsSign => "invalid syntax. Maybe you meant '==' or ':=' instead of '='?"
  | .notAssignableHere title =>
    "cannot assign to " ++ title ++ " here. Maybe you meant '==' instead of '='?"
  | .notAssignable title => "cannot assign to " ++ title
  | .notNameable title => "cannot use assignment expressions with " ++ title
  | .assignmentInArgument =>
    "expression cannot contain assignment, perhaps you meant \"==\"?"
  | .starred => "cannot use starred expression here"
  | .doubleStarred => "cannot use double starred expression here"
  | .keyColonMissing => "':' expected after dictionary key"
  | .valueMissing => "expression expected after dictionary key and ':'"
  | .starredValue => "cannot use a starred expression in a dictionary value"
  | .positionalAfterKeyword => "positional argument follows keyword argument"
  | .positionalAfterUnpacking => "positional argument follows keyword argument unpacking"
  | .unpackingAfterUnpacking =>
    "iterable argument unpacking follows keyword argument unpacking"
  | .generatorNotAlone => "Generator expression must be parenthesized"
  | .unpackedComprehension => "iterable unpacking cannot be used in comprehension"
  | .unpackedDictComprehension => "dict unpacking cannot be used in dict comprehension"
  | .comprehensionParentheses =>
    "did you forget parentheses around the comprehension target?"
  | .defaultMissing => "expected default value expression"
  | .defaultBefore => "non-default argument follows default argument"
  | .parenthesizedParameters => "Lambda expression parameters cannot be parenthesized"
  | .nothingBeforeSlash => "at least one argument must precede /"
  | .slashTwice => "/ may appear only once"
  | .slashAfterStar => "/ must be ahead of *"
  | .slashCommaMissing => "expected comma between / and *"
  | .bareStar => "named arguments must follow bare *"
  | .starDefault => "var-positional argument cannot have default value"
  | .starTwice => "* argument may appear only once"
  | .keywordsDefault => "var-keyword argument cannot have default value"
  | .parameterAfterKeywords => "arguments cannot follow var-keyword argument"
  | .field fault => fault.message
  | .inField fault => "f-string: " ++ fault.message

end Action

end TemplateAudit
