import TemplateAudit.ArgumentError
import TemplateAudit.Markup.Scan

namespace TemplateAudit

/-- Offsets of a literal selector. -/
def findSelector (text selector : Text) : Except ArgumentError (List Nat) :=
  if selector.isEmpty then .error .emptyNeedle else .ok (text.occurrences selector)

/-- The first `count` offsets of a literal selector. The text is searched no further than that, but an
    empty selector is refused at once. -/
def findFirstSelectors (text selector : Text) (count : Nat) : Except ArgumentError (List Nat) :=
  if selector.isEmpty then .error .emptyNeedle else .ok (text.firstOccurrences selector count 0)

/-- The attributes of the given kinds and name on tags with one of the given names; empty tag names do not count. An
    offset points at the name itself, never at binding decoration. Names of tags and attributes are compared in lower
    case. -/
def matchingAttributes (kinds : List BindingKind) (text name : Text) (tagNames : List Text) :
    Except ArgumentError (List Attribute) :=
  let tagNames := tagNames.filter (!·.isEmpty)
  if name.isEmpty then .error .emptyBindingName
  else if tagNames.isEmpty then .error (.noTagNames name)
  else
    let wanted := name.lower
    let attributes := (scanTags text (some tagNames)).flatMap Tag.attributes
    .ok (attributes.filter fun attr =>
      kinds.contains attr.kind && attr.logicalName.lower == wanted)

/-- Offsets of the output bindings of a name on the given tags. -/
def findOutputs (text name : Text) (tagNames : List Text) : Except ArgumentError (List Nat) :=
  (matchingAttributes [.output] text name tagNames).map (·.map Attribute.logicalStart)

/-- Offsets of the inputs of a name on the given tags. A plain attribute counts, because it
    initialises the input of its name. -/
def findInputs (text name : Text) (tagNames : List Text) : Except ArgumentError (List Nat) :=
  (matchingAttributes [.input, .plain] text name tagNames).map (·.map Attribute.logicalStart)

end TemplateAudit
