import TemplateAudit.Text.Blank
import TemplateAudit.Text.Word

namespace TemplateAudit

namespace Component

/-- The three quotes of string literals. -/
def isLiteralQuote (c : Char) : Bool := c == '\'' || c == '"' || c == '\x60'

/-- A declaration: where its word starts, and the quoted part with its quotes. A component gives its template as
    `template:` and a string literal, or as `templateUrl:` and a quoted address. Both are found lexically: a word at a
    word boundary, blanks, a colon, blanks, and a quote. A literal ends at the first quote of its kind that no
    backslash escapes and may span lines; an address ends at the first quote of its kind and may not. -/
structure Declaration where
  start : Nat
  literalStart : Nat
  literal : Text
deriving DecidableEq, Repr

/-- Where a declaration ends. -/
def Declaration.stop (declaration : Declaration) : Nat :=
  declaration.literalStart + declaration.literal.length

/-- The rest of a string literal up to and including its closing quote. -/
def literalTail? (quote : Char) : Text → Option Text
  | [] => none
  | '\\' :: c :: rest => (literalTail? quote rest).map fun tail => '\\' :: c :: tail
  | c :: rest =>
    if c = quote then some [c]
    else if c = '\\' then none
    else (literalTail? quote rest).map (c :: ·)

/-- The rest of an address up to and including its closing quote. -/
def addressTail? (quote : Char) : Text → Option Text
  | [] => none
  | c :: rest =>
    if c = quote then some [c]
    else if c = '\n' then none
    else (addressTail? quote rest).map (c :: ·)

/-- The declaration by `word` at the start of a text: the length of everything before the quoted
    part, and that part. -/
def declared? (word : Text) (tail? : Char → Text → Option Text) (text : Text) :
    Option (Nat × Text) :=
  match word.isPrefixOf? text with
  | none => none
  | some afterWord =>
    match afterWord.dropWhile isBlank with
    | ':' :: afterColon =>
      match afterColon.dropWhile isBlank with
      | quote :: rest =>
        if isLiteralQuote quote then
          (tail? quote rest).map fun tail =>
            (word.length + (afterWord.takeWhile isBlank).length + 1
              + (afterColon.takeWhile isBlank).length, quote :: tail)
        else none
      | [] => none
    | _ => none

/-- The declarations by `word` in a text whose first character stands at `offset`; `skip` characters
    belong to the declaration before, and `inWord` tells whether a word character stands right
    before. -/
def declarationsFrom (word : Text) (tail? : Char → Text → Option Text) (offset skip : Nat)
    (inWord : Bool) : Text → List Declaration
  | [] => []
  | c :: rest =>
    match skip with
    | skip + 1 => declarationsFrom word tail? (offset + 1) skip (isWordChar c) rest
    | 0 =>
      let found := if inWord then none else declared? word tail? (c :: rest)
      match found with
      | none => declarationsFrom word tail? (offset + 1) 0 (isWordChar c) rest
      | some (lead, literal) =>
        ⟨offset, offset + lead, literal⟩
          :: declarationsFrom word tail? (offset + 1) (lead + literal.length - 1) (isWordChar c) rest

/-- The templates written in a component source. -/
def inlineTemplates (source : Text) : List Declaration :=
  declarationsFrom "template" literalTail? 0 0 false source

/-- The addresses of templates in a component source. -/
def templateAddresses (source : Text) : List Declaration :=
  declarationsFrom "templateUrl" addressTail? 0 0 false source

/-- The address inside the quotes of a declaration. -/
def Declaration.address (declaration : Declaration) : Text :=
  (declaration.literal.drop 1).dropLast

end Component

end TemplateAudit
