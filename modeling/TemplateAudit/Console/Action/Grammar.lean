import TemplateAudit.Console.Action.Reading

namespace TemplateAudit

namespace Action

namespace Grammar

open Pattern

/-- A mark. -/
def mark (sign : String) : Pattern := .token (.mark sign)

/-- A keyword. -/
def word (text : String) : Pattern := .token (.keyword text)

/-- A name. -/
def aName : Pattern := .token .name

/-- One of some patterns. -/
def either (patterns : List Pattern) : Pattern := .choice (patterns.map fun pattern => [pattern])

/-- Build an expression from the expressions that were found. -/
def making (make : List Expression → Expression) (_ : View) (values : List Value) : Built :=
  .value (.expression (make (Value.expressionsOf values)))

/-- Build an expression that complaints call by a title. -/
def titled (title : Text) : View → List Value → Built := making (.other title)

/-- Build what the first pattern found. -/
def first (_ : View) (values : List Value) : Built :=
  match values with
  | value :: _ => .value value
  | [] => .value .nothing

/-- Build what the second pattern found. -/
def second (view : View) (values : List Value) : Built := first view (values.drop 1)

/-- Build what all patterns found. -/
def all (_ : View) (values : List Value) : Built := .value (.many values)

/-- Build something of which nothing is known. -/
def known (_ : View) (_ : List Value) : Built := .value .nothing

/-- Stop with a complaint that points at what the pattern with the given place found. -/
def complain (index : Nat) (fault : SyntaxFault) (_ : View) (_ : List Value) : Built :=
  .complaint fault (.item index)

/-- Stop with a complaint that points at the last token that was looked at. -/
def complainLast (fault : SyntaxFault) (_ : View) (_ : List Value) : Built := .complaint fault .last

/-- Stop with a complaint about the first expression that was found, by the pattern with the given
    place. -/
def complainAbout (index : Nat) (fault : Text → SyntaxFault) (_ : View) (values : List Value) :
    Built :=
  match Value.expressionsOf values with
  | expression :: _ => .complaint (fault expression.title) (.item index)
  | [] => .absent

/-- An alternative. -/
def alt (items : List Pattern) (build : View → List Value → Built) : Alternative :=
  ⟨false, items, build⟩

/-- An alternative that only passes on what one pattern finds. -/
def pass (pattern : Pattern) : Alternative := alt [pattern] first

/-- An alternative for mistakes. -/
def mistake (rule : Rule) : Alternative := ⟨true, [.rule rule], first⟩

/-- The only one of some expressions. -/
def only (make : Expression → Expression) (expressions : List Expression) : Expression :=
  match expressions with
  | expression :: _ => make expression
  | [] => .constant []

/-- The first two of some expressions. -/
def both (make : Expression → Expression → Expression) (expressions : List Expression) :
    Expression :=
  match expressions with
  | left :: right :: _ => make left right
  | _ => .constant []

/-- Build an operation that is nothing but an expression. -/
def operation : View → List Value → Built := titled "expression"

/-- An alternative of an operator between two rules, the first of which is the operator's own. -/
def operator (own : Rule) (sign : String) (operand : Rule) : Alternative :=
  alt [.rule own, mark sign, .rule operand] operation

/-- The same for an operator that makes sums. -/
def sumOperator (sign : String) : Alternative :=
  alt [.rule .sum, mark sign, .rule .term] (making (both .sum))

/-- The tokens of a comparison sign. -/
def comparatorItems : Comparator → List Pattern
  | .equal => [mark "=="]
  | .unequal => [.choice [[mark "!="]]]
  | .atMost => [mark "<="]
  | .less => [mark "<"]
  | .atLeast => [mark ">="]
  | .greater => [mark ">"]
  | .notIn => [word "not", word "in"]
  | .isIn => [word "in"]
  | .isNot => [word "is", word "not"]
  | .same => [word "is"]

/-- Build a chain of comparisons. -/
def comparing (_ : View) (values : List Value) : Built :=
  match values with
  | [left, .many (part :: parts)] =>
    let membership := match part with
      | .many (.word "in" :: _) => true
      | _ => false
    match left.expressions with
    | left :: _ =>
      .value (.expression
        (.comparison membership left (part.expressions ++ Value.expressionsOf parts)))
    | [] => .absent
  | _ => .absent

/-- Build a call of the first expression with the arguments that were found. -/
def calling (_ : View) (values : List Value) : Built :=
  match Value.expressionsOf values with
  | callee :: arguments => .value (.expression (.call callee arguments.isEmpty arguments))
  | [] => .absent

/-- Build a list of arguments. -/
def listing (_ : View) (values : List Value) : Built :=
  let keywords := Value.keywordsOf values
  .value (.arguments (Value.positionalOf values) (keywords.map (·.2)) (keywords.any (·.1)))

/-- Build an argument with a name. -/
def naming (unpacked : Bool) (_ : View) (values : List Value) : Built :=
  match (Value.expressionsOf values).getLast? with
  | some value => .value (.keyword unpacked value)
  | none => .absent

/-- Build a dictionary. -/
def collecting (_ : View) (values : List Value) : Built :=
  .value (.expression (.dictionary (Value.entriesOf values)))

/-- Build an entry of a dictionary from a key and a value, or from a value alone. -/
def entering (_ : View) (values : List Value) : Built :=
  match Value.expressionsOf values with
  | [value] => .value (.entry none value)
  | key :: value :: _ => .value (.entry (some key) value)
  | [] => .absent

/-- Build the expression of quoted texts. -/
def quoting (view : View) (values : List Value) : Built :=
  view.readTexts (Value.literalsOf values)

/-- Whether an expression names a statement that was once written without parentheses. -/
def isLegacyStatement : Expression → Bool
  | .name text => text == ("print" : Text) || text == ("exec" : Text)
  | _ => false

/-- Complain about a missing comma between two expressions, but only inside brackets. -/
def missingComma (view : View) (values : List Value) : Built :=
  match Value.expressionsOf values with
  | expression :: _ =>
    if isLegacyStatement expression || view.level = 0 then .absent
    else .complaint .commaMissing (.item 1)
  | [] => .absent

/-- Complain about a statement that was once written without parentheses. -/
def missingParentheses (_ : View) (values : List Value) : Built :=
  match Value.expressionsOf values with
  | .name text :: _ =>
    if isLegacyStatement (.name text) then .complaint (.parenthesesMissing text) (.item 0)
    else .absent
  | _ => .absent

/-- Complain about arguments without names after others. -/
def misplacedArgument (_ : View) (values : List Value) : Built :=
  match values with
  | .arguments _ _ true :: _ => .complaint .positionalAfterUnpacking .last
  | _ => .complaint .positionalAfterKeyword .last

/-- Complain about a generator that is not the only argument. -/
def crowdedGenerator (_ : View) (values : List Value) : Built :=
  match values with
  | .arguments (_ :: _ :: _) _ _ :: _ => .complaint .generatorNotAlone (.item 0)
  | _ => .absent

/-- Complain about a keyword in place of a name. -/
def assignedKeyword (_ : View) (values : List Value) : Built :=
  match values with
  | .many [.word text] :: _ => .complaint (.notAssignable text.toList) (.item 0)
  | _ => .absent

/-- Complain about the targets of a loop. -/
def wrongTargets (_ : View) (values : List Value) : Built :=
  match (Value.expressionsOf values).head?.bind Expression.wrongTarget? with
  | some wrong => .complaint (.notAssignable wrong.title) (.item 2)
  | none => .absent

/-- An expression that is no named one. -/
def argument : Pattern :=
  .choice [[.rule .assignment], [.rule .expression, .notAhead (mark ":=")]]

/-- What a loop has after its targets. -/
def loopRest : List Pattern :=
  [.rule .targets, word "in", .cut, .rule .disjunction,
   .many (.choice [[word "if", .rule .disjunction]])]

/-- The slash among the parameters of a lambda, with what stands before it. -/
def lambdaSlashes : Pattern := either [.rule .lambdaSlash, .rule .lambdaSlashWithDefault]

/-- The end of a parameter: a comma, or the colon after the last one. -/
def parameterEnds : List Pattern := [mark ",", .ahead (mark ":")]

/-- The alternatives of a rule. -/
def alternatives : Rule → List Alternative
  | .whole =>
    [alt [.rule .expressions, .many (.token .newline), .token .stop] first]
  | .fieldContent => [pass (.rule .starExpressions)]
  | .expressions =>
    [alt [.rule .expression, .several (.choice [[mark ",", .rule .expression]]),
        .optional (mark ",")] (making .tuple),
     alt [.rule .expression, mark ","] (making .tuple),
     pass (.rule .expression)]
  | .expression =>
    [mistake .wrongExpression,
     mistake .wrongLegacyCall,
     alt [.rule .disjunction, word "if", .rule .disjunction, word "else", .rule .expression]
       (titled "conditional expression"),
     pass (.rule .disjunction),
     pass (.rule .lambda)]
  | .lenientExpression =>
    [alt [.rule .disjunction, word "if", .rule .disjunction, word "else", .rule .expression]
       (titled "conditional expression"),
     pass (.rule .disjunction),
     pass (.rule .lambda)]
  | .yielding =>
    [alt [word "yield", word "from", .rule .expression] (titled "yield expression"),
     alt [word "yield", .optional (.rule .starExpressions)] (titled "yield expression")]
  | .starExpressions =>
    [alt [.rule .starExpression, .several (.choice [[mark ",", .rule .starExpression]]),
        .optional (mark ",")] (making .tuple),
     alt [.rule .starExpression, mark ","] (making .tuple),
     pass (.rule .starExpression)]
  | .starExpression =>
    [alt [mark "*", .rule .bitwiseOr] (making (only .starred)),
     pass (.rule .expression)]
  | .starNamedExpressions =>
    [alt [.separated "," (.rule .starNamedExpression), .optional (mark ",")] first]
  | .starNamedExpression =>
    [alt [mark "*", .rule .bitwiseOr] (making (only .starred)),
     pass (.rule .namedExpression)]
  | .assignment =>
    [alt [aName, mark ":=", .cut, .rule .expression] (titled "named expression")]
  | .namedExpression =>
    [pass (.rule .assignment),
     mistake .wrongNamedExpression,
     alt [.rule .expression, .notAhead (mark ":=")] first]
  | .disjunction =>
    [alt [.rule .conjunction, .several (.choice [[word "or", .rule .conjunction]])] operation,
     pass (.rule .conjunction)]
  | .conjunction =>
    [alt [.rule .inversion, .several (.choice [[word "and", .rule .inversion]])] operation,
     pass (.rule .inversion)]
  | .inversion =>
    [alt [word "not", .rule .inversion] operation,
     pass (.rule .comparison)]
  | .comparison =>
    [alt [.rule .bitwiseOr, .several (.rule .comparisonPart)] comparing,
     pass (.rule .bitwiseOr)]
  | .comparisonPart =>
    ([.equal, .unequal, .atMost, .less, .atLeast, .greater, .notIn, .isIn, .isNot, .same] :
      List Comparator).map fun sign => pass (.rule (.comparator sign))
  | .comparator sign => [alt (comparatorItems sign ++ [.rule .bitwiseOr]) all]
  | .bitwiseOr => [operator .bitwiseOr "|" .bitwiseXor, pass (.rule .bitwiseXor)]
  | .bitwiseXor => [operator .bitwiseXor "^" .bitwiseAnd, pass (.rule .bitwiseAnd)]
  | .bitwiseAnd => [operator .bitwiseAnd "&" .shift, pass (.rule .shift)]
  | .shift => [operator .shift "<<" .sum, operator .shift ">>" .sum, pass (.rule .sum)]
  | .sum => [sumOperator "+", sumOperator "-", pass (.rule .term)]
  | .term =>
    [operator .term "*" .factor, operator .term "/" .factor, operator .term "//" .factor,
     operator .term "%" .factor, operator .term "@" .factor, pass (.rule .factor)]
  | .factor =>
    [alt [mark "+", .rule .factor] (making (only .signed)),
     alt [mark "-", .rule .factor] (making (only .signed)),
     alt [mark "~", .rule .factor] operation,
     pass (.rule .power)]
  | .power =>
    [alt [.rule .awaiting, mark "**", .rule .factor] operation,
     pass (.rule .awaiting)]
  | .awaiting =>
    [alt [word "await", .rule .primary] (titled "await expression"),
     pass (.rule .primary)]
  | .primary =>
    [alt [.rule .primary, mark ".", aName] (making (only .member)),
     alt [.rule .primary, .rule .generator] calling,
     alt [.rule .primary, mark "(", .optional (.rule .arguments), mark ")"] calling,
     pass (.rule .atom)]
  | .atom =>
    [pass aName,
     alt [word "True"] (making fun _ => .constant "True"),
     alt [word "False"] (making fun _ => .constant "False"),
     alt [word "None"] (making fun _ => .constant "None"),
     alt [.ahead (.token .text), .rule .texts] second,
     pass (.token .number),
     alt [.ahead (mark "("), either [.rule .tuple, .rule .group, .rule .generator]]
       (making (only id)),
     alt [.ahead (mark "\x7b"),
        either [.rule .dictionary, .rule .set, .rule .dictionaryComprehension,
          .rule .setComprehension]] (making (only id)),
     alt [mark "..."] (making fun _ => .constant "ellipsis")]
  | .group =>
    [alt [mark "(", either [.rule .yielding, .rule .namedExpression], mark ")"] (making (only id)),
     mistake .wrongGroup]
  | .lambda =>
    [alt [word "lambda", .optional (.rule .lambdaHead), mark ":", .rule .expression]
       (titled "lambda")]
  | .lambdaHead => [mistake .wrongLambdaParameters, pass (.rule .lambdaParameters)]
  | .lambdaParameters =>
    [alt [.rule .lambdaSlash, .many (.rule .lambdaParameterAlone),
        .many (.rule .lambdaParameterWithDefault), .optional (.rule .lambdaStar)] known,
     alt [.rule .lambdaSlashWithDefault, .many (.rule .lambdaParameterWithDefault),
        .optional (.rule .lambdaStar)] known,
     alt [.several (.rule .lambdaParameterAlone), .many (.rule .lambdaParameterWithDefault),
        .optional (.rule .lambdaStar)] known,
     alt [.several (.rule .lambdaParameterWithDefault), .optional (.rule .lambdaStar)] known,
     alt [.rule .lambdaStar] known]
  | .lambdaSlash =>
    parameterEnds.map fun ending =>
      alt [.several (.rule .lambdaParameterAlone), mark "/", ending] known
  | .lambdaSlashWithDefault =>
    parameterEnds.map fun ending =>
      alt [.many (.rule .lambdaParameterAlone), .several (.rule .lambdaParameterWithDefault),
        mark "/", ending] known
  | .lambdaStar =>
    [mistake .wrongLambdaStar,
     alt [mark "*", .rule .lambdaParameterAlone, .many (.rule .lambdaParameterMaybeDefault),
        .optional (.rule .lambdaKeywords)] known,
     alt [mark "*", mark ",", .several (.rule .lambdaParameterMaybeDefault),
        .optional (.rule .lambdaKeywords)] known,
     alt [.rule .lambdaKeywords] known]
  | .lambdaKeywords =>
    [mistake .wrongLambdaKeywords,
     alt [mark "**", .rule .lambdaParameterAlone] known]
  | .lambdaParameterAlone =>
    parameterEnds.map fun ending => alt [.rule .lambdaParameter, ending] known
  | .lambdaParameterWithDefault =>
    parameterEnds.map fun ending =>
      alt [.rule .lambdaParameter, .rule .defaultValue, ending] known
  | .lambdaParameterMaybeDefault =>
    parameterEnds.map fun ending =>
      alt [.rule .lambdaParameter, .optional (.rule .defaultValue), ending] known
  | .lambdaParameter => [alt [aName] known]
  | .defaultValue => [alt [mark "=", .rule .expression] known, mistake .wrongDefault]
  | .texts => [alt [.several (.token .text)] quoting]
  | .tuple =>
    [alt [mark "(",
        .optional (.choice [[.rule .starNamedExpression, mark ",",
          .optional (.rule .starNamedExpressions)]]),
        mark ")"] (making .tuple)]
  | .set => [alt [mark "\x7b", .rule .starNamedExpressions, mark "\x7d"] (making .set)]
  | .dictionary =>
    [alt [mark "\x7b", .optional (.rule .entries), mark "\x7d"] collecting,
     alt [mark "\x7b", .rule .wrongEntries, mark "\x7d"] known]
  | .entries => [alt [.separated "," (.rule .entry), .optional (mark ",")] first]
  | .entry => [alt [mark "**", .rule .bitwiseOr] entering, pass (.rule .pair)]
  | .pair => [alt [.rule .expression, mark ":", .rule .expression] entering]
  | .loops => [alt [.several (.rule .loop)] first]
  | .loop =>
    [alt (word "async" :: word "for" :: loopRest) all,
     alt (word "for" :: loopRest) all,
     mistake .wrongLoopTarget]
  | .setComprehension =>
    [alt [mark "\x7b", .rule .namedExpression, .rule .loops, mark "\x7d"]
       (titled "set comprehension"),
     mistake .wrongComprehension]
  | .generator =>
    [alt [mark "(", argument, .rule .loops, mark ")"] (titled "generator expression"),
     mistake .wrongComprehension]
  | .dictionaryComprehension =>
    [alt [mark "\x7b", .rule .pair, .rule .loops, mark "\x7d"] (titled "dict comprehension"),
     mistake .wrongDictionaryComprehension]
  | .arguments =>
    [alt [.rule .argumentList, .optional (mark ","), .ahead (mark ")")] first,
     mistake .wrongArguments]
  | .argumentList =>
    [alt [.separated ","
          (.choice [[.rule .starredExpression], [argument, .notAhead (mark "=")]]),
        .optional (.choice [[mark ",", .rule .keywordArguments]])] listing,
     alt [.rule .keywordArguments] listing]
  | .keywordArguments =>
    [alt [.separated "," (.rule .keywordOrStarred), mark ",",
        .separated "," (.rule .keywordOrDoubleStarred)] all,
     alt [.separated "," (.rule .keywordOrStarred)] first,
     alt [.separated "," (.rule .keywordOrDoubleStarred)] first]
  | .starredExpression => [alt [mark "*", .rule .expression] (making (only .starred))]
  | .keywordOrStarred =>
    [mistake .wrongKeyword,
     alt [aName, mark "=", .rule .expression] (naming false),
     pass (.rule .starredExpression)]
  | .keywordOrDoubleStarred =>
    [mistake .wrongKeyword,
     alt [aName, mark "=", .rule .expression] (naming false),
     alt [mark "**", .rule .expression] (naming true)]
  | .targets =>
    [alt [.rule .target, .notAhead (mark ",")] first,
     alt [.rule .target, .many (.choice [[mark ",", .rule .target]]), .optional (mark ",")]
       (making .tuple)]
  | .targetTuple =>
    [alt [.rule .target, .several (.choice [[mark ",", .rule .target]]), .optional (mark ",")]
       (making .tuple),
     alt [.rule .target, mark ","] (making .tuple)]
  | .target =>
    [alt [mark "*", .choice [[.notAhead (mark "*"), .rule .target]]] (making (only .starred)),
     pass (.rule .targetMember)]
  | .targetMember =>
    [alt [.rule .targetPrimary, mark ".", aName, .notAhead (.rule .targetGoesOn)]
       (making (only .member)),
     pass (.rule .targetAtom)]
  | .targetAtom =>
    [pass aName,
     alt [mark "(", .rule .targetMember, mark ")"] second,
     alt [mark "(", .optional (.rule .targetTuple), mark ")"] (making .tuple)]
  | .targetPrimary =>
    [alt [.rule .targetPrimary, mark ".", aName, .ahead (.rule .targetGoesOn)]
       (making (only .member)),
     alt [.rule .targetPrimary, .rule .generator, .ahead (.rule .targetGoesOn)] calling,
     alt [.rule .targetPrimary, mark "(", .optional (.rule .arguments), mark ")",
        .ahead (.rule .targetGoesOn)] calling,
     alt [.rule .atom, .ahead (.rule .targetGoesOn)] first]
  | .targetGoesOn => [pass (mark "("), pass (mark "["), pass (mark ".")]
  | .wrongArguments =>
    [alt [.rule .argumentList, mark ",", mark "*"] (complain 0 .unpackingAfterUnpacking),
     alt [.rule .expression, .rule .loops, mark ",",
        .optional (.choice [[.rule .argumentList], [.rule .expression, .rule .loops]])]
       (complain 0 .generatorNotAlone),
     alt [aName, mark "=", .rule .expression, .rule .loops] (complain 0 .equalsSign),
     alt [.rule .argumentList, .rule .loops] crowdedGenerator,
     alt [.rule .argumentList, mark ",", .rule .expression, .rule .loops]
       (complain 2 .generatorNotAlone),
     alt [.rule .argumentList, mark ",", .rule .argumentList] misplacedArgument]
  | .wrongKeyword =>
    [alt [either [word "True", word "False", word "None"], mark "="] assignedKeyword,
     alt [aName, mark "=", .rule .expression, .rule .loops] (complain 0 .equalsSign),
     alt [.notAhead (.choice [[aName, mark "="]]), .rule .expression, mark "="]
       (complain 1 .assignmentInArgument)]
  | .wrongLegacyCall =>
    [alt [aName, .notAhead (mark "("), .rule .starExpressions] missingParentheses]
  | .wrongExpression =>
    [alt [.notAhead (.choice [[aName, .token .text], [.token .softKeyword]]), .rule .disjunction,
        .rule .lenientExpression] missingComma,
     alt [.rule .disjunction, word "if", .rule .disjunction,
        .notAhead (either [word "else", mark ":"])] (complain 0 .elseMissing)]
  | .wrongNamedExpression =>
    [alt [.rule .expression, mark ":=", .rule .expression] (complainAbout 0 .notNameable),
     alt [aName, mark "=", .rule .bitwiseOr, .notAhead (either [mark "=", mark ":="])]
       (complain 0 .equalsSign),
     alt [.notAhead (either [.rule .tuple, .rule .generator, word "True", word "None",
          word "False"]), .rule .bitwiseOr, mark "=", .rule .bitwiseOr,
        .notAhead (either [mark "=", mark ":="])] (complainAbout 1 .notAssignableHere)]
  | .wrongComprehension =>
    [alt [either [mark "[", mark "(", mark "\x7b"], .rule .starredExpression, .rule .loops]
       (complain 1 .unpackedComprehension),
     alt [either [mark "[", mark "\x7b"], .rule .starNamedExpression, mark ",",
        .rule .starNamedExpressions, .rule .loops] (complain 1 .comprehensionParentheses),
     alt [either [mark "[", mark "\x7b"], .rule .starNamedExpression, mark ",", .rule .loops]
       (complain 1 .comprehensionParentheses)]
  | .wrongDictionaryComprehension =>
    [alt [mark "\x7b", mark "**", .rule .bitwiseOr, .rule .loops, mark "\x7d"]
       (complain 1 .unpackedDictComprehension)]
  | .wrongDefault =>
    [alt [mark "=", .ahead (either [mark ")", mark ","])] (complain 0 .defaultMissing)]
  | .wrongLambdaParameters =>
    [alt [.many (.rule .lambdaParameterAlone), .rule .wrongLambdaDefaults,
        .rule .lambdaParameterAlone] (complain 2 .defaultBefore),
     alt [.many (.rule .lambdaParameterAlone), mark "(", .separated "," (.rule .lambdaParameter),
        .optional (mark ","), mark ")"] (complain 1 .parenthesizedParameters),
     alt [mark "/", mark ","] (complain 0 .nothingBeforeSlash),
     alt [lambdaSlashes, .many (.rule .lambdaParameterMaybeDefault), mark "/"]
       (complain 2 .slashTwice),
     alt [.optional lambdaSlashes, .many (.rule .lambdaParameterMaybeDefault), mark "*",
        either [mark ",", .rule .lambdaParameterAlone],
        .many (.rule .lambdaParameterMaybeDefault), mark "/"] (complain 5 .slashAfterStar),
     alt [.several (.rule .lambdaParameterMaybeDefault), mark "/", mark "*"]
       (complain 2 .slashCommaMissing)]
  | .wrongLambdaDefaults =>
    [alt [.rule .lambdaSlashWithDefault] known,
     alt [.several (.rule .lambdaParameterWithDefault)] known]
  | .wrongLambdaStar =>
    [alt [mark "*",
        .choice [[mark ":"], [mark ",", either [mark ":", mark "**"]]]] (complainLast .bareStar),
     alt [mark "*", .rule .lambdaParameter, mark "="] (complain 2 .starDefault),
     alt [mark "*", either [.rule .lambdaParameterAlone, mark ","],
        .many (.rule .lambdaParameterMaybeDefault), mark "*",
        either [.rule .lambdaParameterAlone, mark ","]] (complain 3 .starTwice)]
  | .wrongLambdaKeywords =>
    [alt [mark "**", .rule .lambdaParameter, mark "="] (complain 2 .keywordsDefault),
     alt [mark "**", .rule .lambdaParameter, mark ",", .rule .lambdaParameter]
       (complain 3 .parameterAfterKeywords),
     alt [mark "**", .rule .lambdaParameter, mark ",",
        either [mark "*", mark "**", mark "/"]] (complain 3 .parameterAfterKeywords)]
  | .wrongLoopTarget =>
    [alt [.optional (word "async"), word "for", .rule .starExpressions] wrongTargets]
  | .wrongGroup =>
    [alt [mark "(", .rule .starredExpression, mark ")"] (complain 1 .starred),
     alt [mark "(", mark "**", .rule .expression, mark ")"] (complain 1 .doubleStarred)]
  | .wrongEntries =>
    [alt [.separated "," (.rule .entry), mark ",", .rule .wrongPair] known,
     alt [.rule .expression, mark ":", mark "*", .rule .bitwiseOr] (complain 2 .starredValue),
     alt [.rule .expression, mark ":", .ahead (either [mark "\x7d", mark ","])]
       (complain 1 .valueMissing)]
  | .wrongPair =>
    [alt [.rule .expression, .notAhead (mark ":")] (complain 0 .keyColonMissing),
     alt [.rule .expression, mark ":", mark "*", .rule .bitwiseOr] (complain 2 .starredValue),
     alt [.rule .expression, mark ":", .ahead (either [mark "\x7d", mark ","])]
       (complain 1 .valueMissing)]

/-- Which rules remember what they find. -/
def memory : Rule → Memory
  | .expression | .starExpression | .disjunction | .conjunction | .inversion | .factor | .awaiting
  | .texts | .arguments | .target | .targetMember | .wrongNamedExpression => .kept
  | .bitwiseOr | .bitwiseXor | .bitwiseAnd | .shift | .sum | .term | .primary | .targetPrimary =>
    .growing
  | _ => .none

/-- The grammar of expressions. Besides the rules for expressions it has rules for common mistakes. Most of them are
    tried only when the tokens are no expression and are read a second time, so that the complaint tells more than
    that. -/
def grammar : Reading.Grammar := ⟨alternatives, memory, (· == .lenientExpression)⟩

end Grammar

end Action

end TemplateAudit
