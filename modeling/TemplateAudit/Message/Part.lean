import TemplateAudit.Message.Error

namespace TemplateAudit

/-- What a field can reach. A field may follow points from a text to the operations that texts have, to the kind of a
    value, and from there to names, to other kinds and to the tables of entries. What stands after a point is looked
    up in the tables of the kinds; a fact comes before what a kind has of its own, and that before the rest. Only what
    can be written down the same way in every run is shown in full: an operation that is bound to a value is shown
    without the place of that value. -/
inductive Part where
  | text (value : Text)
  | number (value : Nat)
  | truth (value : Bool)
  | nothing
  | kind (kind : Kind)
  | kinds (kinds : List Kind)
  /-- The list of the one argument of a kind. -/
  | argument (index : FieldIndex)
  /-- A kind with an argument. -/
  | applied (kind : Kind) (index : FieldIndex)
  /-- The table of entries of a kind. -/
  | table (kind : Kind)
  /-- A mapping without members. -/
  | emptyMapping
  /-- A method that stands in the table of `home` and is bound to a value. -/
  | method (name : Text) (home : Kind) (owner : Part)
  /-- An operator that stands in the table of `home` and is bound to a value. -/
  | operator (name : Text) (home : Kind) (owner : Part)
  /-- A member of the table of `home`, not bound to a value. -/
  | entry (form : Entry.Form) (name : Text) (home : Kind)
deriving DecidableEq, Repr

namespace Part

/-- A text, or nothing. -/
def ofText? : Option Text → Part
  | some value => text value
  | none => nothing

/-- The kind of the members of a table with the given form. -/
def kindOfForm : Entry.Form → Kind
  | .operator => .unboundOperator
  | .method => .unboundMethod
  | .kindMethod => .kindMethod
  | .maker => .method
  | .loose => .loose
  | .computed => .computed
  | .stored => .stored
  | .remark => .text
  | .absent => .nothing

/-- The kind of a part. -/
def kindOf : Part → Kind
  | text _ => .text
  | number _ => .number
  | truth _ => .truth
  | nothing => .nothing
  | kind _ => .type
  | kinds _ | argument _ => .list
  | applied .. => .applied
  | table _ => .table
  | emptyMapping => .mapping
  | method .. => .method
  | operator .. => .operator
  | entry form .. => kindOfForm form

/-- The name in front of a method's own one: that of the kind to which it belongs. -/
def ownerName : Part → Text
  | kind k => k.ownName
  | part => part.kindOf.ownName

/-- How complaints call a part. -/
def title : Part → Text
  | kind k => "type object '" ++ k.name ++ "'"
  | part => "'" ++ part.kindOf.name ++ "' object"

/-- How complaints call a part of which something was picked by index. -/
def indexTitle : Part → Text
  | kind k => "type '" ++ k.name ++ "'"
  | part => part.title

/-- What an entry in the table of `home` is for the kind `k` itself. -/
def ofKind (k home : Kind) (e : Entry) : Part :=
  match e.form with
  | .operator | .method | .computed | .stored => entry e.form e.name home
  | .kindMethod => method e.name home (kind k)
  | .maker | .loose => method e.name home (kind home)
  | .remark => ofText? (Entry.text? home.description)
  | .absent => nothing

/-- The member of the table of `home` that an entry is. -/
def ofTable (home : Kind) (e : Entry) : Part :=
  match e.form with
  | .kindMethod | .loose => entry e.form e.name home
  | _ => ofKind home home e

/-- What is written down about an entry in the table of `home`. -/
def remarks (name : Text) (home : Kind) : List (String × Part) :=
  let found := home.ownEntry? name
  [("__name__", text name),
   ("__doc__", ofText? (found.bind fun e => Entry.text? e.description)),
   ("__text_signature__", ofText? (found.bind fun e => e.signature.map String.toList))]

/-- What a kind says of itself. Where it has no description, its table may still tell how the values
    of the kind describe themselves. -/
def kindFacts (k : Kind) : List (String × Part) :=
  [("__name__", text k.ownName), ("__qualname__", text k.ownName), ("__module__", text k.place),
   ("__mro__", kinds k.lineage), ("__bases__", kinds (k.lineage.tail.take 1)),
   ("__base__", (k.lineage.tail.head?.map kind).getD nothing),
   ("__dict__", table k),
   ("__doc__",
     match Entry.text? k.description, k.ownEntry? "__doc__" with
     | some description, _ => text description
     | none, some e => ofKind k k e
     | none, none => nothing),
   ("__text_signature__", ofText? k.signature?),
   ("__basicsize__", number k.measures.size), ("__itemsize__", number k.measures.memberSize),
   ("__flags__", number k.measures.marks), ("__weakrefoffset__", number k.measures.watchPlace),
   ("__dictoffset__", number k.measures.namesPlace)]

/-- The facts of a number. -/
def numberFacts (n : Nat) : List (String × Part) :=
  [("real", number n), ("imag", number 0), ("numerator", number n), ("denominator", number 1)]

/-- Whether the method with the given name in the table of a kind takes neither a value nor the
    kind. -/
def isLoose (name : Text) (home : Kind) : Bool :=
  (home.ownEntry? name).any fun e => e.form == .loose

/-- The facts of a part, apart from its kind. -/
def ownFacts : Part → List (String × Part)
  | text _ | nothing | kinds _ | argument _ | table _ | emptyMapping => []
  | number n => numberFacts n
  | truth value => numberFacts value.toNat
  | kind k => kindFacts k
  | applied k index =>
    [("__origin__", kind k), ("__args__", argument index), ("__unpacked__", truth false),
     ("__parameters__", kinds []), ("__typing_unpacked_tuple_args__", nothing)]
  | method name home owner =>
    ("__qualname__", text (owner.ownerName ++ "." ++ name)) ::
    ("__self__", if isLoose name home then nothing else owner) ::
    ("__module__", nothing) :: remarks name home
  | operator name home owner =>
    ("__qualname__", text (home.ownName ++ "." ++ name)) ::
    ("__self__", owner) :: ("__objclass__", kind home) :: remarks name home
  | entry .loose name home =>
    let inner := method name home (kind home)
    [("__func__", inner), ("__wrapped__", inner), ("__isabstractmethod__", truth false),
     ("__dict__", emptyMapping)]
  | entry _ name home =>
    ("__qualname__", text (home.ownName ++ "." ++ name)) ::
    ("__objclass__", kind home) :: remarks name home

/-- The fact of a part with the given name. -/
def fact? (part : Part) (name : String) : Option Part :=
  if name = "__class__" then some (kind part.kindOf) else part.ownFacts.lookup name

/-- What an entry in the table of `home` is for a part. -/
def bound? (part : Part) (home : Kind) (e : Entry) : Option Part :=
  match e.form with
  | .operator => some (operator e.name home part)
  | .method => some (method e.name home part)
  | .computed | .stored => part.fact? e.name
  | .kindMethod | .maker | .loose | .remark | .absent => some (ofKind part.kindOf home e)

/-- Whether an entry is a fact. -/
def isFact (e : Entry) : Bool := e.form == .computed || e.form == .stored

/-- What stands after a point that follows a kind: a fact of the kind, else what its values have,
    else what kinds have. -/
def afterKind? (k : Kind) (name : Text) : Option Part :=
  match Kind.type.find? name, k.find? name with
  | none, none => none
  | none, some (home, e) => some (ofKind k home e)
  | some (metaHome, e), none => (kind k).bound? metaHome e
  | some (metaHome, e), some (home, own) =>
    if isFact e then (kind k).bound? metaHome e else some (ofKind k home own)

/-- The names that a kind with an argument answers by itself; it passes the others on to the kind. -/
def appliedNames : List Text :=
  ["__class__", "__origin__", "__args__", "__unpacked__", "__parameters__",
   "__typing_unpacked_tuple_args__", "__mro_entries__", "__reduce_ex__", "__reduce__", "__copy__",
   "__deepcopy__"]

/-- The part that answers when something is asked after a point. -/
def asked (part : Part) (name : Text) : Part :=
  match part with
  | applied k _ => if appliedNames.contains name then part else kind k
  | _ => part

/-- What stands after a point that follows a part. -/
def after? (part : Part) (name : Text) : Option Part :=
  match part.asked name with
  | kind k => afterKind? k name
  | part => (part.kindOf.find? name).bind fun (home, e) => part.bound? home e

/-- Why nothing stands after a point. -/
def absence (part : Part) (name : Text) : TemplateError :=
  match part.asked name with
  | kind k =>
    if name = "__abstractmethods__" then .noOpenMembers else .noSuchPart (kind k).title name
  | part => .noSuchPart part.title name

/-- Kinds in parentheses. -/
def shownKinds : List Kind → Text
  | [k] => "(" ++ k.shown ++ ",)"
  | ks => "(" ++ Text.join ", " (ks.map Kind.shown) ++ ")"

/-- A member of a table as it is shown, by the given way of quoting. -/
def shownMember (quote : Text → Text) : Part → Text
  | text value => quote value
  | method name _ owner => "<built-in method " ++ name ++ " of " ++ owner.kindOf.name ++ " object>"
  | entry .operator name home => "<slot wrapper '" ++ name ++ "' of '" ++ home.name ++ "' objects>"
  | entry .computed name home => "<attribute '" ++ name ++ "' of '" ++ home.name ++ "' objects>"
  | entry .stored name home => "<member '" ++ name ++ "' of '" ++ home.name ++ "' objects>"
  | entry .loose name _ => "<staticmethod(<built-in method " ++ name ++ " of type object>)>"
  | entry _ name home => "<method '" ++ name ++ "' of '" ++ home.name ++ "' objects>"
  | _ => "None"

/-- The members of a table in braces, each after its name. -/
def shownTable (quote : Text → Text) (k : Kind) : Text :=
  let member (e : Entry) : Text := quote e.name ++ ": " ++ shownMember quote (ofTable k e)
  "\x7b" ++ Text.join ", " (k.entries.map member) ++ "\x7d"

/-- A part as it is shown in quotes, by the given way of quoting. -/
def shownBy (quote : Text → Text) : Part → Text
  | text value => quote value
  | number n => Text.ofNat n
  | truth value => if value then "True" else "False"
  | nothing => "None"
  | kind k => k.shown
  | kinds ks => shownKinds ks
  | argument index => "(" ++ index.shownBy quote ++ ",)"
  | applied k index => k.ownName ++ "[" ++ index.shownBy quote ++ "]"
  | table k => "mappingproxy(" ++ shownTable quote k ++ ")"
  | emptyMapping => "\x7b\x7d"
  | operator name _ owner =>
    "<method-wrapper '" ++ name ++ "' of " ++ owner.kindOf.name ++ " object>"
  | part => shownMember quote part

/-- A part as it is shown. -/
def shown : Part → Text
  | text value => value
  | table k => shownTable Text.quoted k
  | part => part.shownBy Text.quoted

/-- What the index of a kind gives: the kind with an argument, if the kind takes arguments. -/
def applied? (k : Kind) (index : FieldIndex) : Option Part :=
  if k = .type || (k.find? "__class_getitem__").isSome then some (applied k index) else none

/-- The member of a part with the given index. -/
def member (part : Part) (index : FieldIndex) : Except TemplateError Part :=
  match part, index with
  | text value, .number n =>
    match value[n]? with
    | some c => .ok (text [c])
    | none => .error .indexOutOfRange
  | text _, .key _ => .error .indexNotNumber
  | kinds ks, .number n =>
    match ks[n]? with
    | some k => .ok (kind k)
    | none => .error .placeOutOfRange
  | argument (.number value), .number 0 => .ok (number value)
  | argument (.key name), .number 0 => .ok (text name)
  | argument _, .number _ => .error .placeOutOfRange
  | kinds _, .key _ | argument _, .key _ => .error .placeNotNumber
  | table k, .key name =>
    match k.ownEntry? name with
    | some e => .ok (ofTable k e)
    | none => .error (.noSuchKey index)
  | table _, .number _ | emptyMapping, _ => .error (.noSuchKey index)
  | applied .., _ => .error (.argumentTwice (part.shownBy Text.quoted))
  | kind k, _ =>
    match applied? k index with
    | some part => .ok part
    | none => .error (.notIndexable part.indexTitle)
  | part, _ => .error (.notIndexable part.indexTitle)

end Part

end TemplateAudit
