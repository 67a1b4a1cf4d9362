import TemplateAudit.Markup.Binding
import TemplateAudit.Markup.StartTag

namespace TemplateAudit

/-- A value and the span it takes, quotes excluded. -/
structure AttributeValue where
  text : Text
  start : Nat
  stop : Nat
deriving DecidableEq, Repr

/-- One attribute of a start tag. The name span covers the name as written, the logical span only
    the bound name inside the decoration. -/
structure Attribute where
  rawName : Text
  logicalName : Text
  kind : BindingKind
  nameStart : Nat
  nameEnd : Nat
  logicalStart : Nat
  logicalEnd : Nat
  value : Option AttributeValue
deriving DecidableEq, Repr

/-- A start tag found in a text; `stop` is the offset just past its `>`, and the name is in lower case. All offsets
    follow from the offset of the `<` and the lengths of the written parts. -/
structure Tag where
  name : Text
  attributes : List Attribute
  start : Nat
  stop : Nat
  selfClosing : Bool
deriving DecidableEq, Repr

/-- The value of an assignment that starts at `offset`, right after the attribute name. -/
def Assignment.locate (assignment : Assignment) (offset : Nat) : AttributeValue :=
  let start := offset + assignment.before.length + 1 + assignment.after.length
  match assignment.value with
  | .quoted _ body => ⟨body, start + 1, start + 1 + body.length⟩
  | .bare body => ⟨body, start, start + body.length⟩

/-- The attribute of the given name and value whose name starts at `offset`. -/
def Attribute.locate (name : Text) (assignment : Option Assignment) (offset : Nat) : Attribute :=
  let binding := Binding.classify name
  { rawName := name
    logicalName := binding.logicalName
    kind := binding.kind
    nameStart := offset
    nameEnd := offset + name.length
    logicalStart := offset + binding.offset
    logicalEnd := offset + binding.offset + binding.logicalName.length
    value := assignment.map (·.locate (offset + name.length)) }

/-- The attributes among items of which the first starts at `offset`. -/
def TagItem.locateAttributes (offset : Nat) : List TagItem → List Attribute
  | [] => []
  | .attribute name assignment :: rest =>
    Attribute.locate name assignment offset
      :: locateAttributes (offset + (TagItem.attribute name assignment).text.length) rest
  | item :: rest => locateAttributes (offset + item.text.length) rest

/-- Whether a slash stands after the last attribute; `seen` tells whether one stood between the last
    attribute and the given items. -/
def TagItem.closesItself (seen : Bool) : List TagItem → Bool
  | [] => seen
  | .blank _ :: rest => closesItself seen rest
  | .slash :: rest => closesItself true rest
  | .attribute _ _ :: rest => closesItself false rest

/-- The tag written at offset `start`. -/
def WrittenTag.locate (tag : WrittenTag) (start : Nat) : Tag :=
  { name := tag.name.lower
    attributes := TagItem.locateAttributes (start + 1 + tag.name.length) tag.items
    start := start
    stop := start + tag.text.length
    selfClosing := TagItem.closesItself false tag.items }

end TemplateAudit
