import TemplateAudit.Message.Error
import TemplateAudit.Text.Digit

namespace TemplateAudit

/-- How a value is laid out in a field of its own. All marks are read whatever is laid out, because each has its own
    complaint where it does not fit. -/
structure Layout where
  fill : Char
  align : Char
  sign : Option Char
  /-- Whether a zero loses its sign. -/
  zeroCoercion : Bool
  /-- Whether the alternate form is asked for. -/
  alternate : Bool
  width : Option Nat
  grouping : Option Char
  precision : Option Nat
  type : Char
deriving DecidableEq, Repr

namespace Layout

/-- The largest number that an index, a width or a precision may be. -/
def maxNumber : Nat := 0x7FFFFFFFFFFFFFFF

/-- The number that a non-empty run of digits spells; none if some character is no digit. -/
def number? (text : Text) : Except TemplateError (Option Nat) :=
  let rec go (n : Nat) : Text → Except TemplateError (Option Nat)
    | [] => .ok (some n)
    | c :: rest =>
      match digitValue? c with
      | none => .ok none
      | some d => if n > (maxNumber - d) / 10 then .error .numberTooLong else go (10 * n + d) rest
  if text.isEmpty then .ok none else go 0 text

/-- The value of a leading run of digits, and what follows it; none if there is no digit. -/
def leadingNumber (text : Text) : Except TemplateError (Option Nat × Text) :=
  let digits := text.takeWhile fun c => (digitValue? c).isSome
  match number? digits with
  | .error error => .error error
  | .ok n => .ok (n, text.drop digits.length)

/-- The marks that may follow a fill character. -/
def isAlignment (c : Char) : Bool := c == '<' || c == '>' || c == '=' || c == '^'

/-- A leading fill character and alignment. -/
def readAlignment (text : Text) : Option Char × Option Char × Text :=
  match text with
  | a :: b :: rest =>
    if isAlignment b then (some a, some b, rest)
    else if isAlignment a then (none, some a, b :: rest)
    else (none, none, text)
  | [a] => if isAlignment a then (none, some a, []) else (none, none, text)
  | [] => (none, none, [])

/-- A leading character of the given kind. -/
def readMark (kind : Char → Bool) (text : Text) : Option Char × Text :=
  match text with
  | c :: rest => if kind c then (some c, rest) else (none, text)
  | [] => (none, [])

/-- The grouping mark of a layout. -/
def readGrouping (text : Text) : Except TemplateError (Option Char × Text) :=
  match text with
  | ',' :: '_' :: _ => .error .bothGroupings
  | ',' :: rest => .ok (some ',', rest)
  | '_' :: ',' :: _ => .error .bothGroupings
  | '_' :: rest => .ok (some '_', rest)
  | _ => .ok (none, text)

/-- The precision of a layout. -/
def readPrecision (text : Text) : Except TemplateError (Option Nat × Text) :=
  match text with
  | '.' :: rest =>
    match leadingNumber rest with
    | .error error => .error error
    | .ok (none, _) => .error .precisionMissing
    | .ok (some n, rest) => .ok (some n, rest)
  | _ => .ok (none, text)

/-- Whether a grouping mark goes with a type. -/
def groupingFits (grouping type : Char) : Bool :=
  ("defgEG%F\x00" : Text).contains type || (grouping == '_' && ("boxX" : Text).contains type)

/-- Read the layout of a value of the given kind, whose usual type and alignment are given. A zero
    in front of the width fills, and where values stand on the right, it fills after the sign. -/
def read (kind : Kind) (type align : Char) (text : Text) : Except TemplateError Layout := do
  let (fill, align?, rest) := readAlignment text
  let (sign, rest) := readMark (fun c => c == ' ' || c == '+' || c == '-') rest
  let (zeroCoercion, rest) := readMark (· == 'z') rest
  let (alternate, rest) := readMark (· == '#') rest
  let (zero, rest) := if fill.isSome then (none, rest) else readMark (· == '0') rest
  let (width, rest) ← leadingNumber rest
  let (grouping, rest) ← readGrouping rest
  let (precision, rest) ← readPrecision rest
  if 1 < rest.length then throw (.invalidLayout text kind)
  let type := rest.headD type
  if let some grouping := grouping then
    if !groupingFits grouping type then throw (.groupingWithType grouping type)
  return {
    fill := (fill.or zero).getD ' '
    align := align?.getD (if zero.isSome && align == '>' then '=' else align)
    sign, zeroCoercion := zeroCoercion.isSome, alternate := alternate.isSome
    width, grouping, precision, type }

/-- Refuse what the layout of a text cannot have. -/
def checkText (layout : Layout) : Except TemplateError Unit := do
  if layout.type ≠ 's' then throw (.unknownType layout.type .text)
  if let some sign := layout.sign then
    throw (if sign = ' ' then .spaceNotAllowed else .signNotAllowed)
  if layout.zeroCoercion then throw .zeroCoercionNotAllowed
  if layout.alternate then throw .alternateNotAllowed
  if layout.align = '=' then throw .signPaddingNotAllowed

/-- The padding before, inside and after what is laid out, for a given lack of width. -/
def padding (layout : Layout) (lack : Nat) : Text × Text × Text :=
  let fill (n : Nat) : Text := Text.repeated n layout.fill
  if layout.align = '>' then (fill lack, [], [])
  else if layout.align = '^' then (fill (lack / 2), [], fill (lack - lack / 2))
  else if layout.align = '=' then ([], fill lack, [])
  else ([], [], fill lack)

/-- A text cut to the precision and padded to the width. -/
def text (layout : Layout) (value : Text) : Text :=
  let value := match layout.precision with
    | some n => value.take n
    | none => value
  let (before, _, after) := layout.padding (layout.width.getD 0 - value.length)
  before ++ value ++ after

end Layout

end TemplateAudit
