import TemplateAudit.Console.Action.Token

namespace TemplateAudit

namespace Action

/-- The marks of two and three characters. -/
def longMarks : List String :=
  ["...", "**=", "//=", ">>=", "<<=", "!=", "%=", "&=", "**", "*=", "+=", "-=", "->", "//", "/=", ":=",
   "<<", "<=", "<>", "==", ">=", ">>", "@=", "^=", "|="]

/-- The mark at the start of a text: the longest one that there is, or a single character. -/
def markAt (c : Char) (rest : Text) : String :=
  match longMarks.find? fun mark => mark.toList.isPrefixOf (c :: rest) with
  | some mark => mark
  | none => String.singleton c

/-- The closing bracket of an opening one. -/
def closingOf? (c : Char) : Option Char :=
  if c = '(' then some ')'
  else if c = '[' then some ']'
  else if c = '\x7b' then some '\x7d'
  else none

/-- Whether a character is a closing bracket. -/
def isClosing (c : Char) : Bool := c == ')' || c == ']' || c == '\x7d'

/-- How deep brackets may be nested. -/
def maxBrackets : Nat := 200

/-- How deep lines may be indented. -/
def maxIndents : Nat := 100

/-- Open brackets, the innermost first. -/
abbrev Brackets := List Bracket

/-- The open brackets after a bracket. -/
def Brackets.after (brackets : Brackets) (line : Nat) (c : Char) : Except SyntaxFault Brackets :=
  if (closingOf? c).isSome then
    if maxBrackets ≤ brackets.length then .error .tooManyBrackets else .ok (⟨c, line⟩ :: brackets)
  else
    match brackets with
    | [] => .error (.unmatched c)
    | bracket :: outer =>
      if closingOf? bracket.opening = some c then .ok outer
      else .error (.mismatched c bracket.opening
        (if bracket.line = line then none else some bracket.line))

/-- How far a line is indented: with tabs to the next multiple of eight, and with tabs like spaces. -/
structure Indent where
  wide : Nat
  narrow : Nat
deriving DecidableEq, Repr

/-- Where a scanner is. -/
structure Place where
  line : Nat
  /-- The bytes on this line that have been read. -/
  column : Nat
  brackets : Brackets
  /-- The indented lines around this one, the innermost first. -/
  indents : List Indent
deriving DecidableEq, Repr

/-- A gap inside a line. -/
def isGap (c : Char) : Bool := c == ' ' || c == '\t' || c == Char.ofNat 0xC

namespace Place

/-- The place before any token. -/
def start (line : Nat) : Place := ⟨line, 0, [], []⟩

/-- A token at a place. -/
def lexeme (place : Place) (token : Token) : Lexeme :=
  ⟨token, place.line, ⟨place.line, place.column⟩, place.brackets.length, false⟩

/-- A token whose end the scanner found by looking at what follows. -/
def before (place : Place) (token : Token) (rest : Text) : Lexeme :=
  { place.lexeme token with atEnd := rest.isEmpty }

/-- The token of a quoted text. -/
def quoted (place : Place) (literal : Literal) (rest : Text) : Lexeme :=
  { place.lexeme (.text literal) with
    spot := literal.spot, atEnd := literal.body.isEmpty && rest.isEmpty }

/-- What ends the tokens if something cannot be read. -/
def wrong (place : Place) (fault : SyntaxFault) : List Lexeme :=
  [place.lexeme (.broken (.wrong fault))]

/-- What ends the tokens if nothing more can be read. -/
def lost (place : Place) (fault : SyntaxFault) : List Lexeme :=
  [place.lexeme (.broken (.lost fault place.brackets.head?))]

/-- What ends the tokens at the end of the text. -/
def ending (place : Place) : List Lexeme :=
  match place.brackets with
  | [] => [place.lexeme .stop]
  | bracket :: _ => place.lost (.neverClosed bracket.opening)

/-- The place on the next line. -/
def nextLine (place : Place) : Place := { place with line := place.line + 1, column := 0 }

/-- The place after something on the same line. -/
def past (place : Place) (read : Text) : Place :=
  { place with column := place.column + Utf8.size read }

/-- The place after a quoted text, which may span lines. -/
def pastQuoted (place : Place) (literal : Literal) : Place :=
  if literal.spot.line = place.line then place.past literal.written
  else
    let last := literal.written.reverse.takeWhile (· != '\n')
    { place with line := literal.spot.line, column := Utf8.size last }

/-- The indented lines that a line with less indentation leaves. -/
def unindent (place : Place) (indent : Indent) : Except SyntaxFault (List Lexeme × Place) :=
  let left := place.indents.takeWhile fun outer => indent.wide < outer.wide
  let indents := place.indents.drop left.length
  let reached := indents.head?.getD ⟨0, 0⟩
  if indent.wide ≠ reached.wide then .error .unindentMismatch
  else if indent.narrow ≠ reached.narrow then .error .mixedIndentation
  else .ok (left.map fun _ => place.lexeme .unindent, { place with indents })

/-- The tokens for the indentation of a line, and the place after it. -/
def indent (place : Place) (indent : Indent) : Except SyntaxFault (List Lexeme × Place) :=
  let current := place.indents.head?.getD ⟨0, 0⟩
  if indent.wide = current.wide then
    if indent.narrow = current.narrow then .ok ([], place) else .error .mixedIndentation
  else if current.wide < indent.wide then
    if maxIndents ≤ place.indents.length + 1 then .error .tooManyIndents
    else if indent.narrow ≤ current.narrow then .error .mixedIndentation
    else .ok ([place.lexeme .indent], { place with indents := indent :: place.indents })
  else place.unindent indent

end Place

/-- The gap at the start of a line: its width, what follows it, and the place there. A backslash at
    the end of a line continues the gap on the next one, but only what stands before the first such
    backslash counts. None if a backslash is misplaced. -/
def lineStart (fuel : Nat) (place : Place) (indent : Indent) (fixed : Option Nat) (text : Text) :
    Except (SyntaxFault × Place) (Indent × Place × Text) :=
  match fuel, text with
  | fuel + 1, c :: rest =>
    if c = ' ' then lineStart fuel (place.past [c]) ⟨indent.wide + 1, indent.narrow + 1⟩ fixed rest
    else if c = '\t' then
      lineStart fuel (place.past [c]) ⟨(indent.wide / 8 + 1) * 8, indent.narrow + 1⟩ fixed rest
    else if c = Char.ofNat 0xC then lineStart fuel (place.past [c]) ⟨0, 0⟩ fixed rest
    else if c = '\\' then
      let fixed := match fixed with
        | some (width + 1) => some (width + 1)
        | _ => some indent.wide
      match rest with
      | '\n' :: [] => .error (.unexpectedEnd, place)
      | '\n' :: after => lineStart fuel place.nextLine indent fixed after
      | _ => .error (.badContinuation, place)
    else finish text
  | _, text => finish text
where
  /-- The width that counts. -/
  finish (text : Text) : Except (SyntaxFault × Place) (Indent × Place × Text) :=
    match fixed with
    | some (width + 1) => .ok (⟨width + 1, width + 1⟩, place, text)
    | _ => .ok (indent, place, text)

/-- Cut a text into tokens. `fresh` tells that the text starts a line. Each step takes at least one
    character or ends the start of a line, so twice the length of the text is fuel enough. -/
def scan (fuel : Nat) (place : Place) (fresh : Bool) (text : Text) : List Lexeme :=
  match fuel with
  | 0 => place.ending
  | fuel + 1 =>
    if fresh then
      match lineStart (text.length + 1) place ⟨0, 0⟩ none text with
      | .error (fault, place) => place.lost fault
      | .ok (indent, place, rest) =>
        match rest with
        | '\n' :: after => scan fuel place.nextLine true after
        | '#' :: comment =>
          match comment.dropWhile (· != '\n') with
          | _ :: after => scan fuel place.nextLine true after
          | [] => place.ending
        | rest =>
          if place.brackets.isEmpty then
            match place.indent indent with
            | .error fault => place.lost fault
            | .ok (tokens, place) => tokens ++ scan fuel place false rest
          else scan fuel place false rest
    else
      match text with
      | [] => place.ending
      | c :: rest =>
        if isGap c then scan fuel (place.past [c]) false rest
        else if c = '#' then scan fuel place false (rest.dropWhile (· != '\n'))
        else if c = '\n' then
          let later := scan fuel place.nextLine true rest
          if place.brackets.isEmpty then place.lexeme .newline :: later else later
        else if c = '\\' then
          match rest with
          | '\n' :: [] => place.lost .unexpectedEnd
          | '\n' :: after => scan fuel place.nextLine false after
          | _ => place.lost .badContinuation
        else if c.isDigit || (c = '.' && (rest.head?.map Char.isDigit).getD false) then
          let reach := Numeric.span false text
          match Numeric.read reach with
          | .error fault => place.wrong fault
          | .ok (spelling, beyond) =>
            let written := reach.take (reach.length - beyond.length)
            let after := text.drop written.length
            place.before (Numeric.token written spelling) after ::
              scan fuel (place.past written) false after
        else
          let word := text.takeWhile mayBeInWord
          let afterWord := text.dropWhile mayBeInWord
          let quoted := match afterWord with
            | '"' :: _ | '\'' :: _ => Quotation.mayPrecedeQuote word
            | _ => false
          if quoted then
            match Quotation.read word place.line place.column afterWord with
            | .error fault => place.wrong fault
            | .ok (literal, after) =>
              place.quoted literal after :: scan fuel (place.pastQuoted literal) false after
          else if !word.isEmpty then
            match checkWord word with
            | .error fault => place.wrong fault
            | .ok () =>
              place.before (.ofWord word) afterWord :: scan fuel (place.past word) false afterWord
          else if (closingOf? c).isSome || isClosing c then
            match place.brackets.after place.line c with
            | .error fault => place.wrong fault
            | .ok brackets =>
              let place := { place with brackets }
              place.before (.mark (String.singleton c)) rest ::
                scan fuel (place.past [c]) false rest
          else if !isPrintable c then place.wrong (.unprintableCharacter c)
          else
            let mark := markAt c rest
            let after := text.drop mark.length
            let lexeme := if mark.length < 3 then place.before (.mark mark) after
              else place.lexeme (.mark mark)
            lexeme :: scan fuel (place.past mark.toList) false after

/-- The tokens of a text that starts on a given line. Line feeds count only outside of brackets. There, the gap at the
    start of a line is a token if it is deeper than the one before, and a line without tokens counts for nothing. -/
def tokens (line : Nat) (text : Text) : List Lexeme :=
  scan (2 * text.length + 2) (.start line) true text

end Action

end TemplateAudit
