import TemplateAudit.Console.Action.Token

namespace TemplateAudit

namespace Action

/-- The signs that compare. -/
inductive Comparator where
  | equal
  | unequal
  | atMost
  | less
  | atLeast
  | greater
  | notIn
  | isIn
  | isNot
  | same
deriving DecidableEq, Repr

/-- The rules of the grammar. Those whose names start with `wrong` match mistakes that have a
    complaint of their own. -/
inductive Rule where
  | whole
  | fieldContent
  | expressions
  | expression
  | lenientExpression
  | yielding
  | starExpressions
  | starExpression
  | starNamedExpressions
  | starNamedExpression
  | assignment
  | namedExpression
  | disjunction
  | conjunction
  | inversion
  | comparison
  | comparisonPart
  | comparator (sign : Comparator)
  | bitwiseOr
  | bitwiseXor
  | bitwiseAnd
  | shift
  | sum
  | term
  | factor
  | power
  | awaiting
  | primary
  | atom
  | group
  | lambda
  | lambdaHead
  | lambdaParameters
  | lambdaSlash
  | lambdaSlashWithDefault
  | lambdaStar
  | lambdaKeywords
  | lambdaParameterAlone
  | lambdaParameterWithDefault
  | lambdaParameterMaybeDefault
  | lambdaParameter
  | defaultValue
  | texts
  | tuple
  | set
  | dictionary
  | entries
  | entry
  | pair
  | loops
  | loop
  | setComprehension
  | generator
  | dictionaryComprehension
  | arguments
  | argumentList
  | keywordArguments
  | starredExpression
  | keywordOrStarred
  | keywordOrDoubleStarred
  | targets
  | targetTuple
  | target
  | targetMember
  | targetAtom
  | targetPrimary
  | targetGoesOn
  | wrongArguments
  | wrongKeyword
  | wrongLegacyCall
  | wrongExpression
  | wrongNamedExpression
  | wrongComprehension
  | wrongDictionaryComprehension
  | wrongDefault
  | wrongLambdaParameters
  | wrongLambdaDefaults
  | wrongLambdaStar
  | wrongLambdaKeywords
  | wrongLoopTarget
  | wrongGroup
  | wrongEntries
  | wrongPair
deriving DecidableEq, Repr

/-- What a single token may be asked to be. -/
inductive Wanted where
  | name
  /-- A name that is a keyword in other places, or the beginning of such a word. -/
  | softKeyword
  | number
  | text
  | mark (sign : String)
  | keyword (word : String)
  | newline
  | stop
deriving DecidableEq, Repr

/-- A pattern of tokens. -/
inductive Pattern where
  | token (wanted : Wanted)
  | rule (rule : Rule)
  /-- What a rule that may start with itself is made of. -/
  | body (rule : Rule)
  | optional (pattern : Pattern)
  | many (pattern : Pattern)
  | several (pattern : Pattern)
  /-- Several times, with a mark in between. -/
  | separated (sign : String) (pattern : Pattern)
  /-- Any number of times, each after a mark. -/
  | following (sign : String) (pattern : Pattern)
  /-- The first of some lists of patterns that matches. -/
  | choice (lists : List (List Pattern))
  /-- The pattern matches here; nothing is taken. -/
  | ahead (pattern : Pattern)
  /-- The pattern does not match here; nothing is taken. -/
  | notAhead (pattern : Pattern)
  /-- No other alternative will be tried. -/
  | cut

/-- What patterns find. -/
inductive Value where
  | nothing
  | word (text : String)
  | literal (literal : Literal)
  | expression (expression : Expression)
  | entry (key : Option Expression) (value : Expression)
  /-- An argument with a name, or the entries of a dictionary as arguments. -/
  | keyword (unpacked : Bool) (value : Expression)
  | arguments (positional keywords : List Expression) (unpacked : Bool)
  | many (values : List Value)

namespace Value

mutual

/-- The expressions in what was found, in order. -/
def expressions : Value → List Expression
  | expression e => [e]
  | entry none value => [value]
  | entry (some key) value => [key, value]
  | keyword _ value => [value]
  | arguments positional keywords _ => positional ++ keywords
  | many values => expressionsOf values
  | _ => []

/-- The expressions in what several patterns found, in order. -/
def expressionsOf : List Value → List Expression
  | [] => []
  | value :: rest => value.expressions ++ expressionsOf rest

end

mutual

/-- The quoted texts in what was found, in order. -/
def literals : Value → List Literal
  | literal l => [l]
  | many values => literalsOf values
  | _ => []

/-- The quoted texts in what several patterns found, in order. -/
def literalsOf : List Value → List Literal
  | [] => []
  | value :: rest => value.literals ++ literalsOf rest

end

mutual

/-- The entries of a dictionary in what was found, in order. -/
def entries : Value → List (Option Expression × Expression)
  | entry key value => [(key, value)]
  | many values => entriesOf values
  | _ => []

/-- The entries in what several patterns found, in order. -/
def entriesOf : List Value → List (Option Expression × Expression)
  | [] => []
  | value :: rest => value.entries ++ entriesOf rest

end

mutual

/-- The arguments with names in what was found, and whether each is a whole dictionary. -/
def keywords : Value → List (Bool × Expression)
  | keyword unpacked value => [(unpacked, value)]
  | many values => keywordsOf values
  | _ => []

/-- The arguments with names in what several patterns found. -/
def keywordsOf : List Value → List (Bool × Expression)
  | [] => []
  | value :: rest => value.keywords ++ keywordsOf rest

end

mutual

/-- The arguments without names in what was found. -/
def positional : Value → List Expression
  | expression e => [e]
  | many values => positionalOf values
  | _ => []

/-- The arguments without names in what several patterns found. -/
def positionalOf : List Value → List Expression
  | [] => []
  | value :: rest => value.positional ++ positionalOf rest

end

end Value

/-- Why reading stops for good. -/
inductive Stop where
  | fault (fault : SyntaxFault)
  /-- A complaint that cannot be shown, because it points to the left of the field that it is about.
      -/
  | unshowable
  /-- Rules are inside one another beyond all measure. -/
  | tooDeep
deriving DecidableEq, Repr

/-- Where a complaint points. -/
inductive Pointer where
  /-- At the last token that was looked at. -/
  | last
  /-- At the first token that belongs to the pattern with the given place in its list. -/
  | item (index : Nat)
  | spot (spot : Spot)
  /-- At the start of the line. -/
  | line
deriving DecidableEq, Repr

/-- What an alternative builds. -/
inductive Built where
  | value (value : Value)
  /-- Nothing after all; the rule does not match. -/
  | absent
  | complaint (fault : SyntaxFault) (pointer : Pointer)
  | stop (stop : Stop)

/-- What an alternative can see besides what its patterns found. -/
structure View where
  /-- How many brackets are open after the last token. -/
  level : Nat
  /-- Reads quoted texts that stand next to one another. -/
  readTexts : List Literal → Built

/-- An alternative of a rule. A rule of a grammar has alternatives that are tried in order. Each is a list of patterns
    that have to match one after the other, and says what it builds from what they found. -/
structure Alternative where
  /-- Whether it is tried only by a reader that looks for mistakes. -/
  strict : Bool
  items : List Pattern
  build : View → List Value → Built

/-- Whether what a rule found at a place is remembered. -/
inductive Memory where
  | none
  | kept
  /-- The rule may start with itself, so what it found grows. -/
  | growing
deriving DecidableEq, Repr

end Action

end TemplateAudit
