import TemplateAudit.Console.Action.Escape
import TemplateAudit.Console.Action.Pattern
import TemplateAudit.Text.CharacterName

namespace TemplateAudit

namespace Action

namespace Field

/-- What a stretch of text between fields is, what follows it, and whether more text follows a
    doubled brace. -/
structure Stretch where
  text : Text
  rest : Text
  goesOn : Bool

/-- End a stretch at a brace; `taken` is what stands before it, the last character first. Only
    outside of layouts braces may be doubled. -/
def atBrace (top : Bool) (taken : Text) (brace : Char) (rest : Text) : Except FieldFault Stretch :=
  if top && rest.head? = some brace then .ok ⟨(brace :: taken).reverse, rest.drop 1, true⟩
  else if top && brace = '\x7d' then .error .singleBrace
  else .ok ⟨taken.reverse, brace :: rest, false⟩

/-- Whether a character is a brace. -/
def isBrace (c : Char) : Bool := c == '\x7b' || c == '\x7d'

/-- Read text up to a field. The braces of a named character belong to it; `named` tells that the
    text is inside them. -/
def stretch (raw top named : Bool) (taken : Text) : Text → Except FieldFault Stretch
  | [] => .ok ⟨taken.reverse, [], false⟩
  | c :: rest =>
    if named then stretch raw top (c != '\x7d') (c :: taken) rest
    else if c = '\\' && !raw then
      match rest with
      | [] => .ok ⟨(c :: taken).reverse, [], false⟩
      | 'N' :: d :: more => stretch raw top (d == '\x7b') (d :: 'N' :: c :: taken) more
      | d :: more =>
        if isBrace d then atBrace top (c :: taken) d more
        else stretch raw top false (d :: c :: taken) more
    else if isBrace c then atBrace top taken c rest
    else stretch raw top false (c :: taken) rest

/-- Whether the expression in a field may end with a character. -/
def mayEnd (c : Char) : Bool :=
  c == '!' || c == ':' || c == '\x7d' || c == '=' || c == '<' || c == '>'

/-- Whether a character and an equals sign after it compare. -/
def comparesWithEquals (c : Char) : Bool := c == '!' || c == '=' || c == '<' || c == '>'

/-- Whether a character is an opening bracket. -/
def isOpening (c : Char) : Bool := c == '(' || c == '[' || c == '\x7b'

/-- Whether a character is the closing partner of an opening bracket. -/
def isPartner (opening closing : Char) : Bool :=
  (opening == '(' && closing == ')') || (opening == '[' && closing == ']')
    || (opening == '\x7b' && closing == '\x7d')

/-- How deep brackets in a field may be nested. -/
def maxBrackets : Nat := 200

/-- The expression at the start of a field and what follows it. `quote` is the quote of a text
    inside which this is, and whether it is a threefold one; `brackets` are open, the innermost
    first. -/
def expression (quote : Option (Char × Bool)) (brackets : List Char) (taken : Text) :
    Text → Except FieldFault (Text × Text)
  | [] =>
    match quote, brackets with
    | some _, _ => .error .unterminatedText
    | none, bracket :: _ => .error (.unmatched bracket)
    | none, [] => .ok (taken.reverse, [])
  | c :: rest =>
    if c = '\\' then .error .backslash
    else
      match quote with
      | some (mark, false) =>
        expression (if c = mark then none else quote) brackets (c :: taken) rest
      | some (mark, true) =>
        match rest with
        | a :: b :: more =>
          if c = mark && a = mark && b = mark then
            expression none brackets (b :: a :: c :: taken) more
          else expression quote brackets (c :: taken) (a :: b :: more)
        | rest => expression quote brackets (c :: taken) rest
      | none =>
        if c = '\'' || c = '"' then
          match rest with
          | a :: b :: more =>
            if a = c && b = c then expression (some (c, true)) brackets (b :: a :: c :: taken) more
            else expression (some (c, false)) brackets (c :: taken) (a :: b :: more)
          | rest => expression (some (c, false)) brackets (c :: taken) rest
        else if isOpening c then
          if maxBrackets ≤ brackets.length then .error .tooManyBrackets
          else expression none (c :: brackets) (c :: taken) rest
        else if c = '#' then .error .comment
        else if brackets.isEmpty && mayEnd c then
          match rest with
          | '=' :: more =>
            if comparesWithEquals c then expression none [] ('=' :: c :: taken) more
            else .ok (taken.reverse, c :: rest)
          | rest =>
            if c = '<' || c = '>' then expression none [] (c :: taken) rest
            else .ok (taken.reverse, c :: rest)
        else if c = ')' || c = ']' || c = '\x7d' then
          match brackets with
          | [] => .error (.unmatched c)
          | opening :: outer =>
            if isPartner opening c then expression none outer (c :: taken) rest
            else .error (.mismatched c opening)
        else expression none brackets (c :: taken) rest
termination_by text => text.length

/-- Whether a character is a gap in an expression. -/
def isGap (c : Char) : Bool := c == ' ' || c == '\t' || c == '\n' || c == Char.ofNat 0xC

/-- Whether a character is a gap after an equals sign. -/
def isSpace (c : Char) : Bool := isGap c || c == '\r' || c == Char.ofNat 0xB

/-- Why a text cannot be read. -/
inductive Refusal where
  | complaint (fault : SyntaxFault) (pointer : Pointer)
  /-- The expression in a field cannot be read. -/
  | stop (stop : Stop)
deriving DecidableEq, Repr

/-- Stop with a complaint about fields. -/
def refuse {α : Type} (fault : FieldFault) : Except Refusal α :=
  .error (.complaint (.field fault) .last)

/-- What reading fields needs to know. -/
structure Setting where
  literal : Literal
  /-- Where the text comes from. -/
  origin : Origin
  /-- Reads the expression in a field. -/
  parse : Origin → Text → Except Stop Expression

namespace Setting

/-- Where the expression comes from that is `inside` a field and what follows it. Its column is that
    of the opening brace, unless the line ends right after it. -/
def originOf (setting : Setting) (inside : Text) : Origin :=
  let before := setting.literal.body.take (setting.literal.body.length - inside.length - 1)
  let before := setting.literal.opening ++ before
  let lines := before.count '\n'
  let lineEnds := match inside.dropWhile fun c => c != '\n' && isGap c with
    | c :: _ => c == '\n' || c == '\x7d'
    | [] => false
  let columns :=
    if lineEnds then 0 else Utf8.size (before.reverse.takeWhile (· != '\n'))
  let start := if lines = 0 then setting.origin.columnOf setting.literal.spot else 0
  ⟨true, setting.literal.line + lines, start + columns⟩

/-- Check the escapes in a stretch of text. -/
def checkStretch (setting : Setting) (text : Text) : Except Refusal Unit :=
  if setting.literal.raw then .ok ()
  else
    match Escape.fault? isCharacterName text with
    | some fault => .error (.complaint fault .last)
    | none => .ok ()

/-- Check the expression of a field, which starts before `inside` and ends before `rest`. -/
def checkExpression (setting : Setting) (inside written rest : Text) : Except Refusal Unit :=
  if written.all isGap then
    match rest with
    | c :: _ => refuse (if c = '\x7d' then .empty else .expressionRequired c)
    | [] => refuse .braceExpected
  else
    match setting.parse (setting.originOf inside) ('(' :: (written ++ [')', '\n'])) with
    | .error stop => .error (.stop stop)
    | .ok _ => .ok ()

/-- What follows the equals sign after the expression of a field, if there is one. -/
def afterEquals (rest : Text) : Except Refusal Text :=
  match rest with
  | '=' :: rest =>
    match rest.dropWhile isSpace with
    | [] => refuse .braceExpected
    | rest => .ok rest
  | rest => .ok rest

/-- What follows the conversion of a field, if there is one. -/
def afterConversion (rest : Text) : Except Refusal Text :=
  match rest with
  | '!' :: [] => refuse .braceExpected
  | '!' :: c :: rest =>
    if c = 's' || c = 'r' || c = 'a' then .ok rest else refuse .badConversion
  | rest => .ok rest

mutual

/-- Check a text with fields that is the layout of so many others, and return what follows it. Every
    step takes a character, so the length of the text is fuel enough. -/
def checkText (setting : Setting) (fuel depth : Nat) (text : Text) : Except Refusal Text :=
  match fuel with
  | 0 => .ok text
  | fuel + 1 =>
    match stretch setting.literal.raw (depth == 0) false [] text with
    | .error fault => refuse fault
    | .ok stretch => do
      setting.checkStretch stretch.text
      if stretch.goesOn then setting.checkText fuel depth stretch.rest
      else
        match stretch.rest with
        | '\x7b' :: inside => setting.checkField fuel depth inside
        | [] => if depth = 0 then return [] else refuse .braceExpected
        | rest => if depth = 0 then refuse .endExpected else return rest

/-- Check a field after its opening brace and the text after it, and return what follows that. -/
def checkField (setting : Setting) (fuel depth : Nat) (inside : Text) : Except Refusal Text :=
  match fuel with
  | 0 => .ok inside
  | fuel + 1 =>
    if 2 ≤ depth then refuse .nestedTooDeeply
    else
      match expression none [] [] inside with
      | .error fault => refuse fault
      | .ok (_, []) => refuse .braceExpected
      | .ok (written, rest) => do
        setting.checkExpression inside written rest
        let rest ← afterEquals rest
        let rest ← afterConversion rest
        let rest ← match rest with
          | ':' :: [] => refuse .braceExpected
          | ':' :: layout => setting.checkText fuel (depth + 1) layout
          | rest => pure rest
        match rest with
        | '\x7d' :: rest => setting.checkText fuel depth rest
        | _ => refuse .braceExpected

end

end Setting

/-- Check a text without fields. -/
def checkPlain (literal : Literal) : Except Refusal Unit :=
  let escapeFault :=
    if literal.raw then none
    else if literal.bytes then Escape.byteFault? 0 literal.body
    else Escape.fault? isCharacterName literal.body
  if literal.bytes && literal.body.any (fun c => 0x80 ≤ c.toNat) then
    .error (.complaint .bytesNotAscii (.spot literal.spot))
  else
    match escapeFault with
    | some fault => .error (.complaint fault .last)
    | none => .ok ()

/-- Check a text after others; `bytes` tells what the others are. -/
def checkLiteral (origin : Origin) (parse : Origin → Text → Except Stop Expression)
    (bytes : Option Bool) (literal : Literal) : Except Refusal Unit := do
  if !literal.formatted then checkPlain literal
  if bytes = some !literal.bytes then throw (.complaint .mixedTexts .last)
  if literal.formatted then
    let setting : Setting := ⟨literal, origin, parse⟩
    let _ ← setting.checkText (2 * literal.body.length + 2) 0 literal.body

/-- Check texts in order. -/
def checkLiterals (origin : Origin) (parse : Origin → Text → Except Stop Expression)
    (bytes : Option Bool) : List Literal → Except Refusal Unit
  | [] => .ok ()
  | literal :: rest => do
    checkLiteral origin parse bytes literal
    checkLiterals origin parse (some literal.bytes) rest

/-- The expression that texts next to one another are. Texts next to one another are one text. A field holds an
    expression in braces, perhaps followed by an equals sign, a conversion and a layout, which may hold fields itself.
    Outside of fields braces are doubled. -/
def readTexts (origin : Origin) (parse : Origin → Text → Except Stop Expression)
    (literals : List Literal) : Built :=
  match checkLiterals origin parse none literals with
  | .error (.complaint fault pointer) => .complaint fault pointer
  | .error (.stop stop) => .stop stop
  | .ok () =>
    .value (.expression
      (if literals.any (·.formatted) then .other "f-string expression" [] else .constant "literal"))

end Field

end Action

end TemplateAudit
