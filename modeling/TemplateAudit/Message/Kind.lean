import TemplateAudit.Message.Kind.Collection
import TemplateAudit.Message.Kind.General
import TemplateAudit.Message.Kind.Number
import TemplateAudit.Message.Kind.Operation
import TemplateAudit.Message.Kind.Text

namespace TemplateAudit

/-- The kinds of what a field can reach. -/
inductive Kind where
  /-- Everything is an object. -/
  | object
  /-- The kind of kinds. -/
  | type
  | text
  | number
  /-- Truth values count as numbers. -/
  | truth
  | nothing
  | list
  | mapping
  /-- Tables of entries. -/
  | table
  /-- Methods bound to a value. -/
  | method
  /-- Operators bound to a value. -/
  | operator
  | unboundMethod
  | unboundOperator
  /-- Methods that take the kind. -/
  | kindMethod
  | computed
  | stored
  /-- Methods that take neither a value nor the kind. -/
  | loose
  /-- Kinds with an argument. -/
  | applied
deriving DecidableEq, Repr

namespace Kind

/-- The name of a kind in complaints. -/
def name : Kind → Text
  | object => "object"
  | type => "type"
  | text => "str"
  | number => "int"
  | truth => "bool"
  | nothing => "NoneType"
  | list => "tuple"
  | mapping => "dict"
  | table => "mappingproxy"
  | method => "builtin_function_or_method"
  | operator => "method-wrapper"
  | unboundMethod => "method_descriptor"
  | unboundOperator => "wrapper_descriptor"
  | kindMethod => "classmethod_descriptor"
  | computed => "getset_descriptor"
  | stored => "member_descriptor"
  | loose => "staticmethod"
  | applied => "types.GenericAlias"

/-- The name that a kind gives of itself. -/
def ownName : Kind → Text
  | applied => "GenericAlias"
  | kind => kind.name

/-- The place where a kind is defined. -/
def place : Kind → Text
  | applied => "types"
  | _ => "builtins"

/-- A kind as it is shown. -/
def shown (kind : Kind) : Text := "<class '" ++ kind.name ++ "'>"

/-- A kind and the kinds above it. -/
def lineage : Kind → List Kind
  | object => [object]
  | truth => [truth, number, object]
  | kind => [kind, object]

/-- What a kind says that its values have. -/
def entries : Kind → List Entry
  | object => objectEntries
  | type => typeEntries
  | text => textEntries
  | number => numberEntries
  | truth => truthEntries
  | nothing => nothingEntries
  | list => listEntries
  | mapping => mappingEntries
  | table => tableEntries
  | method => methodEntries
  | operator => operatorEntries
  | unboundMethod => unboundMethodEntries
  | unboundOperator => unboundOperatorEntries
  | kindMethod => kindMethodEntries
  | computed => computedEntries
  | stored => storedEntries
  | loose => looseEntries
  | applied => appliedEntries

/-- The description of a kind. -/
def description : Kind → List String
  | object => objectDescription
  | type => typeDescription
  | text => textDescription
  | number => numberDescription
  | truth => truthDescription
  | list => listDescription
  | mapping => mappingDescription
  | loose => looseDescription
  | applied => appliedDescription
  | _ => []

/-- What the making of a value of the kind takes, if that is written down. -/
def signature? : Kind → Option Text
  | object => some "()"
  | list => some "(iterable=(), /)"
  | _ => none

/-- The measures of the values of a kind, and the marks of the kind itself. -/
structure Measures where
  /-- The size of a value. -/
  size : Nat
  /-- The size of each further member of a value. -/
  memberSize : Nat
  marks : Nat
  /-- Where a value notes who watches it; zero if nowhere. -/
  watchPlace : Nat
  /-- Where a value keeps names of its own; zero if nowhere. -/
  namesPlace : Nat
deriving DecidableEq, Repr

/-- The measures of a kind. -/
def measures : Kind → Measures
  | object => ⟨16, 0, 0x81500, 0, 0⟩
  | type => ⟨904, 40, 0x80085D00, 368, 264⟩
  | text => ⟨80, 0, 0x10481500, 0, 0⟩
  | number => ⟨24, 4, 0x1481500, 0, 0⟩
  | truth => ⟨32, 4, 0x1481100, 0, 0⟩
  | nothing => ⟨16, 0, 0x81100, 0, 0⟩
  | list => ⟨24, 8, 0x4485520, 0, 0⟩
  | mapping => ⟨48, 0, 0x20485540, 0, 0⟩
  | table => ⟨24, 0, 0x85140, 0, 0⟩
  | method => ⟨56, 0, 0x85980, 40, 0⟩
  | operator => ⟨32, 0, 0x85180, 0, 0⟩
  | unboundMethod => ⟨56, 0, 0xA5980, 0, 0⟩
  | unboundOperator => ⟨56, 0, 0xA5180, 0, 0⟩
  | kindMethod => ⟨56, 0, 0x85180, 0, 0⟩
  | computed => ⟨48, 0, 0x85180, 0, 0⟩
  | stored => ⟨48, 0, 0x85180, 0, 0⟩
  | loose => ⟨32, 0, 0x85500, 0, 24⟩
  | applied => ⟨64, 0, 0x85D00, 40, 0⟩

/-- The entry of a kind's own table with the given name. -/
def ownEntry? (kind : Kind) (name : Text) : Option Entry :=
  kind.entries.find? fun entry => entry.name.toList == name

/-- The first kind of a lineage whose table has an entry with the given name, and the entry. -/
def findIn? (name : Text) : List Kind → Option (Kind × Entry)
  | [] => none
  | kind :: rest =>
    match kind.ownEntry? name with
    | some entry => some (kind, entry)
    | none => findIn? name rest

/-- The entry that serves the values of a kind under the given name, and the kind in whose table it stands. Every kind
    has a table of entries. What a value has is looked up in the table of its kind and, if it is not there, in the
    tables of the kinds above it, of which that of objects in general is the last. -/
def find? (kind : Kind) (name : Text) : Option (Kind × Entry) := findIn? name kind.lineage

end Kind

end TemplateAudit
