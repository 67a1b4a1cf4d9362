import TemplateAudit.Console.Action.Fault

namespace TemplateAudit

namespace Action

/-- A number, as far as it matters which one it is. -/
inductive Magnitude where
  | whole (value : Nat)
  | real
  | imaginary
deriving DecidableEq, Repr

/-- An expression. -/
inductive Expression where
  | number (magnitude : Magnitude)
  /-- Another constant, and how complaints call it. -/
  | constant (title : Text)
  | name (text : Text)
  | member (owner : Expression)
  | starred (inner : Expression)
  | tuple (items : List Expression)
  | set (items : List Expression)
  /-- Keys and values; a value without a key stands for the entries of another dictionary. -/
  | dictionary (entries : List (Option Expression × Expression))
  /-- A plus or minus sign before an expression. -/
  | signed (operand : Expression)
  /-- A sum or difference. -/
  | sum (left right : Expression)
  /-- A chain of comparisons; `membership` tells that the first one asks what is in what. -/
  | comparison (membership : Bool) (left : Expression) (others : List Expression)
  /-- A call; `bare` tells that it has no arguments. -/
  | call (callee : Expression) (bare : Bool) (arguments : List Expression)
  /-- Anything else, how complaints call it, and what it is made of. -/
  | other (title : Text) (parts : List Expression)

/-- Why an expression has no value. -/
inductive ValueFault where
  /-- The expression is no literal. -/
  | malformed
  /-- The entries of another dictionary are part of a dictionary. -/
  | unpacked
  /-- A value of a kind that can be neither in a set nor a key. -/
  | unhashable (kind : Text)
  /-- An integer that is too large to be part of a complex number. -/
  | tooLarge
  /-- Expressions are inside one another beyond all measure. -/
  | nestedTooDeeply
  /-- So many expressions are inside one another that there was no room to read them. -/
  | exhausted
  /-- A complaint that points to the left of the field that it is about. -/
  | unshowable
deriving DecidableEq, Repr

/-- The complaint about an expression without a value. -/
def ValueFault.message : ValueFault → Text
  | .malformed => "malformed node or string"
  | .unpacked => "malformed node or string: None"
  | .unhashable kind => "unhashable type: '" ++ kind ++ "'"
  | .tooLarge => "int too large to convert to float"
  | .nestedTooDeeply => "maximum recursion depth exceeded during ast construction"
  | .exhausted => []
  | .unshowable => "Negative size passed to PyUnicode_New"

namespace Expression

/-- How complaints call an expression. -/
def title : Expression → Text
  | number _ => "literal"
  | constant title => title
  | name _ => "name"
  | member _ => "attribute"
  | starred _ => "starred"
  | tuple _ => "tuple"
  | set _ => "set display"
  | dictionary _ => "dict literal"
  | signed _ => "expression"
  | sum .. => "expression"
  | comparison .. => "comparison"
  | call .. => "function call"
  | other title _ => title

mutual

/-- The first part of an expression to which nothing can be assigned where a loop names its targets.
    What is asked to be in something else may be the target, because the rest belongs to the loop. -/
def wrongTarget? : Expression → Option Expression
  | tuple items => wrongTargetIn? items
  | starred inner => wrongTarget? inner
  | comparison true left _ => wrongTarget? left
  | comparison false _ _ => none
  | name _ => none
  | member _ => none
  | expression => some expression

/-- The first part of some expressions to which nothing can be assigned. -/
def wrongTargetIn? : List Expression → Option Expression
  | [] => none
  | item :: rest =>
    match wrongTarget? item with
    | some wrong => some wrong
    | none => wrongTargetIn? rest

end

mutual

/-- How many expressions are inside one another. -/
def height : Expression → Nat
  | number _ => 1
  | constant _ => 1
  | name _ => 1
  | member owner => height owner + 1
  | starred inner => height inner + 1
  | tuple items => heightOf items + 1
  | set items => heightOf items + 1
  | dictionary members => heightOfEntries members + 1
  | signed operand => height operand + 1
  | sum left right => max (height left) (height right) + 1
  | comparison _ left others => max (height left) (heightOf others) + 1
  | call callee _ arguments => max (height callee) (heightOf arguments) + 1
  | other _ parts => heightOf parts + 1

/-- The largest height of some expressions. -/
def heightOf : List Expression → Nat
  | [] => 0
  | item :: rest => max (height item) (heightOf rest)

/-- The largest height of keys and values. -/
def heightOfEntries : List (Option Expression × Expression) → Nat
  | [] => 0
  | (none, item) :: rest => max (height item) (heightOfEntries rest)
  | (some key, item) :: rest => max (max (height key) (height item)) (heightOfEntries rest)

end

/-- How many expressions may be inside one another. -/
def maxHeight : Nat := 2950

/-- The number that an expression is, a sign in front of it apart. -/
def magnitude? : Expression → Option Magnitude
  | number magnitude => some magnitude
  | signed (number magnitude) => some magnitude
  | _ => none

/-- The least integer that no binary number with 53 digits and the largest exponent is near to. -/
def firstTooLarge : Nat := (1 <<< 1024) - (1 <<< 970)

/-- What matters of a value: the kind that keeps it out of sets, if there is one. -/
abbrev Value := Option Text

/-- The sum of a number and an imaginary one. -/
def complexSum (left : Expression) : Except ValueFault Value :=
  match left.magnitude? with
  | some (.whole n) => if firstTooLarge ≤ n then .error .tooLarge else .ok none
  | some .real => .ok none
  | _ => .error .malformed

/-- A value must be fit to be in a set. -/
def hashable : Value → Except ValueFault Unit
  | none => .ok ()
  | some kind => .error (.unhashable kind)

mutual

/-- The value of a literal. -/
def value : Expression → Except ValueFault Value
  | number _ => .ok none
  | constant _ => .ok none
  | tuple items => values items
  | set items => (setMembers items).map fun _ => some "set"
  | dictionary members => (entries members).map fun _ => some "dict"
  | signed (number _) => .ok none
  | sum left (number .imaginary) => complexSum left
  | call (name callee) true _ =>
    if callee = "set" then .ok (some "set") else .error .malformed
  | _ => .error .malformed

/-- The value of a tuple: what keeps one of its items out of sets keeps it out too. -/
def values : List Expression → Except ValueFault Value
  | [] => .ok none
  | item :: rest => do
    let first ← value item
    let later ← values rest
    return first.or later

/-- Check the members of a set in order. -/
def setMembers : List Expression → Except ValueFault Unit
  | [] => .ok ()
  | item :: rest => do
    hashable (← value item)
    setMembers rest

/-- Check the entries of a dictionary in order. -/
def entries : List (Option Expression × Expression) → Except ValueFault Unit
  | [] => .ok ()
  | (none, _) :: _ => .error .unpacked
  | (some key, item) :: rest => do
    let key ← value key
    let _ ← value item
    hashable key
    entries rest

end

/-- The value of an expression that is not too high. -/
def evaluate (expression : Expression) : Except ValueFault Value :=
  if maxHeight < expression.height then .error .nestedTooDeeply else expression.value

end Expression

end Action

end TemplateAudit
