import TemplateAudit.Rule.Basic

namespace TemplateAudit

/-- Names that were to be disabled and that no rule has, distinct and in ascending order. -/
structure UnknownRules where
  names : List Text
deriving DecidableEq, Repr

/-- What is reported for unknown rule names. -/
def UnknownRules.message (error : UnknownRules) : Text :=
  "Unknown rule(s): " ++ Text.join ", " error.names

namespace Rule

/-- The disabled names that no rule has. -/
def unknownNames (disabled : List Text) (rules : List Rule) : List Text :=
  (disabled.filter fun name => !(rules.map Rule.name).contains name).eraseDups.mergeSort Text.le

/-- The rules whose names are not disabled; every disabled name must be the name of a rule. -/
def select (disabled : List Text) (rules : List Rule) : Except UnknownRules (List Rule) :=
  match unknownNames disabled rules with
  | [] => .ok (rules.filter fun rule => !disabled.contains rule.name)
  | names => .error ⟨names⟩

end Rule

end TemplateAudit
