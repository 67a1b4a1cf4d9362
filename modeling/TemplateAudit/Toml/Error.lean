import TemplateAudit.Number.Numeral
import TemplateAudit.Source.Position
import TemplateAudit.Text.Quoted

namespace TemplateAudit

namespace Toml

/-- A dotted key. -/
abbrev Key := List Text

/-- What is wrong. -/
inductive Fault where
  | invalidStatement
  | newlineExpected
  | equalsExpected
  | badKeyStart
  | declaredTwice (key : Key)
  | namespaceRedefined (key : Key)
  | namespaceFrozen (key : Key)
  | valueOverwritten
  | duplicateKey (name : Text)
  | tableEndExpected
  | arrayEndExpected
  | unclosedArray
  | unclosedTable
  | unterminatedText
  | delimiterExpected (delimiter : Text)
  | invalidCharacter (c : Char)
  | illegalCharacter (c : Char)
  | badEscape
  | badHexEscape
  | notScalarValue
  | invalidDate
  | invalidValue
  /-- An integer with too many digits; this complaint has no place. -/
  | integerTooLong (digits : Nat)
  /-- Lists and tables inside one another beyond all measure; this complaint has no place. -/
  | nestedTooDeeply
deriving DecidableEq, Repr

/-- A fault, and how many characters of the document are left where it was noticed. -/
structure Error where
  fault : Fault
  remaining : Nat
deriving DecidableEq, Repr

/-- A key as complaints show it. -/
def shownKey (key : Key) : Text :=
  match key with
  | [part] => "(" ++ part.quoted ++ ",)"
  | parts => "(" ++ Text.join ", " (parts.map Text.quoted) ++ ")"

/-- The complaint about a fault. -/
def Fault.message : Fault → Text
  | .invalidStatement => "Invalid statement"
  | .newlineExpected => "Expected newline or end of document after a statement"
  | .equalsExpected => "Expected '=' after a key in a key/value pair"
  | .badKeyStart => "Invalid initial character for a key part"
  | .declaredTwice key => "Cannot declare " ++ shownKey key ++ " twice"
  | .namespaceRedefined key => "Cannot redefine namespace " ++ shownKey key
  | .namespaceFrozen key => "Cannot mutate immutable namespace " ++ shownKey key
  | .valueOverwritten => "Cannot overwrite a value"
  | .duplicateKey name => "Duplicate inline table key " ++ name.quoted
  | .tableEndExpected => "Expected ']' at the end of a table declaration"
  | .arrayEndExpected => "Expected ']]' at the end of an array declaration"
  | .unclosedArray => "Unclosed array"
  | .unclosedTable => "Unclosed inline table"
  | .unterminatedText => "Unterminated string"
  | .delimiterExpected delimiter => "Expected " ++ delimiter.quoted
  | .invalidCharacter c => "Found invalid character " ++ Text.quoted [c]
  | .illegalCharacter c => "Illegal character " ++ Text.quoted [c]
  | .badEscape => "Unescaped '\\' in a string"
  | .badHexEscape => "Invalid hex value"
  | .notScalarValue => "Escaped character is not a Unicode scalar value"
  | .invalidDate => "Invalid date or datetime"
  | .invalidValue => "Invalid value"
  | .integerTooLong digits => Numeral.unreadable digits
  | .nestedTooDeeply => "maximum recursion depth exceeded"

/-- Whether the complaint about a fault says where it was noticed. -/
def Fault.hasPlace : Fault → Bool
  | .integerTooLong _ | .nestedTooDeeply => false
  | _ => true

/-- The complaint about an error in a document, with its place if it has one. -/
def Error.message (error : Error) (document : Text) : Text :=
  if error.fault.hasPlace then
    let place : Text :=
      if error.remaining = 0 then "end of document"
      else
        let position := Source.positionAt document (document.length - error.remaining)
        "line " ++ Text.ofNat position.line ++ ", column " ++ Text.ofNat position.column
    error.fault.message ++ " (at " ++ place ++ ")"
  else error.fault.message

/-- An error noticed at the start of `text`. -/
def failAt {α : Type} (fault : Fault) (text : Text) : Except Error α := .error ⟨fault, text.length⟩

end Toml

end TemplateAudit
