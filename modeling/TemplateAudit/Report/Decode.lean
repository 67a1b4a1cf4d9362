import TemplateAudit.Json.Read
import TemplateAudit.Report.Basic
import TemplateAudit.Text.Blank

namespace TemplateAudit

/-- A step on the way from the top of a JSON document to a value. -/
inductive PathStep where
  | key (name : Text)
  | index (n : Nat)
deriving DecidableEq, Repr

/-- What may be wrong with a value. -/
inductive ReportFault where
  /-- The text is not JSON. -/
  | notJson
  /-- An object was wanted. -/
  | notObject
  /-- A list was wanted. -/
  | notList
  /-- A text was wanted. -/
  | notText
  /-- An integer was wanted. -/
  | notInteger
  /-- The text spells no integer. -/
  | unreadableInteger
  /-- The number has a fraction. -/
  | fraction
  /-- The number is infinite or no number. -/
  | notFinite
  /-- The number is too large to be read as an integer. -/
  | tooLarge
  /-- A member that must be there is not. -/
  | missing
deriving DecidableEq, Repr

/-- A fault and where it is. -/
structure ReportProblem where
  fault : ReportFault
  place : List PathStep
deriving DecidableEq, Repr

namespace Report

/-- The result of decoding: a value, or all problems in order. -/
abbrev Decoded (α : Type) := Except (List ReportProblem) α

/-- A failure with one problem, right here. -/
def fail {α : Type} (fault : ReportFault) : Decoded α := .error [⟨fault, []⟩]

/-- The same result with the places of its problems seen from one step further up. -/
def under {α : Type} (step : PathStep) : Decoded α → Decoded α
  | .ok value => .ok value
  | .error problems => .error (problems.map fun problem =>
      { problem with place := step :: problem.place })

/-- Two results together; the problems of the first come first. -/
def both {α β : Type} (first : Decoded α) (second : Decoded β) : Decoded (α × β) :=
  match first, second with
  | .ok a, .ok b => .ok (a, b)
  | .ok _, .error problems => .error problems
  | .error problems, .ok _ => .error problems
  | .error problems, .error more => .error (problems ++ more)

/-- What is left of a numeral after its first zero, which is the character `last` or stands before
    it: further zeros and the underscores between them go, but one character stays before a point
    and at the end. A sign may still follow. -/
def afterZeros? (last : Char) : Text → Option Text
  | [] => some [last]
  | c :: rest =>
    if c = '0' || c = '_' then afterZeros? c rest
    else if c.isDigit || c = '-' then some (c :: rest)
    else if c = '.' then some (last :: c :: rest)
    else none

/-- A numeral without sign and without its leading zeros. -/
def withoutLeadingZeros? : Text → Option Text
  | [] => none
  | c :: rest =>
    if c = '0' then afterZeros? c rest
    else if c.isDigit then some (c :: rest)
    else none

/-- A numeral without its point and the zeros after it; a fraction that has no digit or another one
    stays. -/
def withoutZeroFraction (text : Text) : Text :=
  match text.dropWhile (· != '.') with
  | '.' :: fraction =>
    if !fraction.isEmpty && fraction.all (· == '0') then text.takeWhile (· != '.') else text
  | _ => text

/-- Whether two underscores stand side by side. -/
def hasDoubleUnderscore : Text → Bool
  | '_' :: '_' :: _ => true
  | _ :: rest => hasDoubleUnderscore rest
  | [] => false

/-- A numeral without its underscores, which stay if one stands at an end or two side by side. -/
def withoutUnderscores (text : Text) : Text :=
  if text.head? == some '_' || text.getLast? == some '_' || hasDoubleUnderscore text then text
  else text.filter (· != '_')

/-- The blanks that may surround a numeral; the information separators are not among them. -/
def surroundsNumeral (c : Char) : Bool := isBlank c && !(0x1C ≤ c.toNat && c.toNat < 0x20)

/-- A text that is lenient about the spelling of an integer in strict spelling: blanks around it, a
    plus sign, leading zeros, a fraction of zeros and underscores go. -/
def strictInteger? (text : Text) : Option Text :=
  let trimmed := Text.trimWhile surroundsNumeral text
  let (sign, unsigned) : Text × Text := match trimmed with
    | '-' :: rest => (['-'], rest)
    | '+' :: rest => ([], rest)
    | _ => ([], trimmed)
  (withoutLeadingZeros? unsigned).map fun numeral =>
    sign ++ withoutUnderscores (withoutZeroFraction numeral)

/-- The integer that a text spells. Of a text that is too long only a strict numeral is reported as
    such. -/
def integerOfText (text : Text) : Decoded Int :=
  if Json.startsTooLong text then fail .tooLarge
  else
    match (strictInteger? text).bind Json.integer? with
    | some n => .ok n
    | none => fail .unreadableInteger

/-- Whether an integer is small enough to be taken from a number written with a fraction or an
    exponent. -/
def fitsWord (n : Int) : Bool := -0x8000000000000000 < n && n < 0x8000000000000000

/-- Read an integer. -/
def integer : Json → Decoded Int
  | .int n => .ok n
  | .bool b => .ok (if b then 1 else 0)
  | .string text => integerOfText text
  | .float .nan | .float (.infinity _) => fail .notFinite
  | .float value =>
    match value.toInt? with
    | none => fail .fraction
    | some n => if fitsWord n then .ok n else fail .tooLarge
  | .null | .array _ | .object _ => fail .notInteger

/-- Read a text. -/
def text : Json → Decoded Text
  | .string text => .ok text
  | _ => fail .notText

/-- Read a value that may be null. -/
def orNull {α : Type} (read : Json → Decoded α) : Json → Decoded (Option α)
  | .null => .ok none
  | value => (read value).map some

/-- Read a member, with a result for the case that it is not there. -/
def memberOr {α : Type} (absent : Decoded α) (read : Json → Decoded α) (key : Text)
    (members : List (Text × Json)) : Decoded α :=
  under (.key key) <|
    match Json.member? key members with
    | none => absent
    | some value => read value

/-- Read a member that must be there. -/
def required {α : Type} (read : Json → Decoded α) (key : Text) (members : List (Text × Json)) :
    Decoded α :=
  memberOr (fail .missing) read key members

/-- Read a member that may be missing or null. -/
def optional {α : Type} (read : Json → Decoded α) (key : Text) (members : List (Text × Json)) :
    Decoded (Option α) :=
  memberOr (.ok none) (orNull read) key members

/-- Read an entry of a report. -/
def entry : Json → Decoded ReportEntry
  | .object members =>
    let fields := both (required text "rule" members) <| both (optional text "path" members) <|
      both (required integer "start" members) <| both (required integer "end" members) <|
      both (optional integer "line" members) <| both (optional integer "column" members) <|
      required text "message" members
    fields.map fun (rule, path, start, stop, line, column, message) =>
      ⟨rule, path, start, stop, line, column, message⟩
  | _ => fail .notObject

/-- Read items of a list, the first of which has the given index. -/
def itemsFrom {α : Type} (read : Json → Decoded α) (index : Nat) : List Json → Decoded (List α)
  | [] => .ok []
  | item :: rest =>
    (both (under (.index index) (read item)) (itemsFrom read (index + 1) rest)).map fun (a, as) =>
      a :: as

/-- Read a list. -/
def listOf {α : Type} (read : Json → Decoded α) : Json → Decoded (List α)
  | .array items => itemsFrom read 0 items
  | _ => fail .notList

/-- Read a report. -/
def ofJson : Json → Decoded Report
  | .object members =>
    (both (memberOr (.ok 0) integer "files" members)
      (memberOr (.ok []) (listOf entry) "diagnostics" members)).map fun (files, entries) =>
        ⟨files, entries⟩
  | _ => fail .notObject

/-- Read what JSON text holds. -/
def decodeBy {α : Type} (read : Json → Decoded α) (data : Text) : Decoded α :=
  match Json.read? data with
  | none => fail .notJson
  | some value => read value

/-- The report that JSON text holds. Members that a report does not have are ignored, and of two members with the same
    key the last one counts. Where an integer is wanted, a truth value, a number without fraction and a text that
    spells an integer will do. All problems are reported, each with its kind and its place. -/
def decode (data : Text) : Decoded Report := decodeBy ofJson data

/-- The report entry that JSON text holds. -/
def decodeEntry (data : Text) : Decoded ReportEntry := decodeBy entry data

end Report

end TemplateAudit
