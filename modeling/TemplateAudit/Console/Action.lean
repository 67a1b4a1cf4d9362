import TemplateAudit.Console.Action.Field
import TemplateAudit.Console.Action.Grammar
import TemplateAudit.Console.Action.Scan
import TemplateAudit.Text.Blank
import TemplateAudit.Text.Newlines
import TemplateAudit.Text.Quoted
import TemplateAudit.Text.Word

namespace TemplateAudit

/-- Why an action is refused. -/
inductive ActionError where
  /-- The arguments are no expression. -/
  | unreadable (arguments action : Text) (fault : Action.SyntaxFault)
  /-- The arguments are no literal. -/
  | worthless (action : Text) (fault : Action.ValueFault)
  /-- The action holds a null character. -/
  | nullCharacter (action : Text)
deriving DecidableEq, Repr

/-- The complaint about an action. -/
def ActionError.message : ActionError → Text
  | .unreadable arguments action fault =>
    "error parsing " ++ arguments.quoted ++ " in " ++ action.quoted ++ "; " ++ fault.message
  | .worthless action fault => "error parsing " ++ action.quoted ++ "; " ++ fault.message
  | .nullCharacter action =>
    "error parsing " ++ action.quoted ++ "; source code string cannot contain null bytes"

namespace Action

/-- The arguments in an action: what stands in parentheses after the name of a handler, nothing if
    there is only a name, and all of an action that has no such form. -/
def argumentsOf (action : Text) : Text :=
  let rest := action.dropWhile fun c => isWordChar c || c == '.'
  match rest with
  | [] => "()"
  | c :: _ =>
    if c = '(' && 1 < rest.length && rest.getLast? = some ')' && !rest.contains '\n' then rest
    else action

namespace Reading.Reader

/-- What is wrong in the end if a reader has found a fault: a token after it that cannot be read
    comes first, and so does a bracket that was opened on an earlier line and is never closed. -/
def worst (reader : Reader) (stop : Stop) (state : State) : Stop :=
  let isBroken (lexeme : Lexeme) : Bool := match lexeme.token with
    | .broken _ => true
    | _ => false
  let line := ((reader.tokens[state.seen - 1]?).map Lexeme.line).getD 0
  let later := reader.tokens.toList.drop state.seen
  match (later.find? isBroken).map Lexeme.token with
  | some (.broken (.wrong other)) => .fault other
  | some (.broken (.lost _ (some bracket))) =>
    if bracket.line < line then .fault (reader.toldFault (.neverClosed bracket.opening)) else stop
  | _ => stop

/-- Why reading stops if a mistake was found. If the end of the text has been noticed, nothing comes
    before the complaint. -/
def explained (reader : Reader) (stop : Stop) (state : State) : Stop :=
  match stop with
  | .fault _ =>
    if ((reader.tokens[state.seen - 1]?).map Lexeme.atEnd).getD false then stop
    else reader.worst stop state
  | _ => stop

/-- Why reading stops if no mistake was found; `last` is the last token that was looked at before. -/
def unexplained (reader : Reader) (last : Nat) (state : State) : Stop :=
  match (reader.tokens[last]?).map Lexeme.token with
  | some .indent => .fault (reader.toldFault .unexpectedIndent)
  | some .unindent => .fault (reader.toldFault .unexpectedUnindent)
  | _ => reader.worst (reader.complaintAbout .invalid last) state

/-- The expression that tokens are by a rule. If they are none, they are read again to find the
    mistake. -/
def run (reader : Reader) (rule : Rule) : Except Stop Expression :=
  match reader.read rule false 0 with
  | (.found value, _) => .ok (value.expressions.head?.getD (.constant []))
  | (.stopped stop, state) => .error (reader.explained stop state)
  | (.absent, first) =>
    match reader.read rule true first.seen with
    | (.stopped stop, state) => .error (reader.explained stop state)
    | (_, state) => .error (reader.unexplained (first.seen - 1) state)

end Reading.Reader

/-- The expression in a field of a text. Fields may hold texts with fields of their own, so many
    levels deep. -/
def parseField : Nat → Origin → Text → Except Stop Expression
  | 0, _, _ => .error .tooDeep
  | depth + 1, origin, text =>
    let reader : Reading.Reader :=
      ⟨Grammar.grammar, (tokens origin.line text).toArray, origin,
        Field.readTexts origin (parseField depth)⟩
    reader.run .fieldContent

/-- The expression that a text is. A field is shorter than the text that holds it, so there are no
    more levels than characters. -/
def parse (text : Text) : Except Stop Expression :=
  let origin : Origin := ⟨false, 1, 0⟩
  let reader : Reading.Reader :=
    ⟨Grammar.grammar, (tokens 1 text.uniformNewlines).toArray, origin,
      Field.readTexts origin (parseField text.length)⟩
  reader.run .whole

/-- The complaint about arguments that cannot be read. -/
def refusal (arguments action : Text) : Stop → ActionError
  | .fault fault => .unreadable arguments action fault
  | .unshowable => .worthless action .unshowable
  | .tooDeep => .worthless action .exhausted

/-- Check that the arguments of an action are a literal. A tag whose name starts with an at sign has an action after
    its equals sign: the name of a handler with arguments in parentheses, or a literal. The console shows no actions,
    but it refuses one whose arguments cannot be read as a literal. -/
def check (action : Text) : Except ActionError Unit := do
  let arguments := argumentsOf (Text.trim action)
  if arguments.contains (Char.ofNat 0) then throw (.nullCharacter action)
  let expression ← (parse arguments).mapError (refusal arguments action)
  let _ ← expression.evaluate.mapError (.worthless action)

end Action

end TemplateAudit
