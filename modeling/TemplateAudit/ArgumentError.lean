import TemplateAudit.Text.Quoted

namespace TemplateAudit

/-- Why an argument is refused. -/
inductive ArgumentError where
  /-- A search for nothing. -/
  | emptyNeedle
  /-- A binding without a name. -/
  | emptyBindingName
  /-- A binding that no tag can have, because no tag name is given. -/
  | noTagNames (name : Text)
  /-- A span that does not lie in its source. -/
  | spanOutside (start stop : Int) (length : Nat)
  /-- A rule without a name. -/
  | unnamedRule
  /-- A rule that matches nothing. -/
  | emptyToken (rule : Text)
  /-- A refusal that a finder words itself. -/
  | worded (message : Text)
deriving DecidableEq, Repr

/-- What is reported for a refused argument. -/
def ArgumentError.message : ArgumentError → Text
  | .emptyNeedle => "Cannot search for an empty substring"
  | .emptyBindingName => "Binding name must not be empty"
  | .noTagNames name => "No tag names given to match " ++ name.quoted ++ " against"
  | .spanOutside start stop length =>
    "Invalid literal span [" ++ Text.ofInt start ++ ", " ++ Text.ofInt stop
      ++ ") for source of length " ++ Text.ofNat length
  | .unnamedRule => "Deprecation rule needs a name"
  | .emptyToken rule => "Deprecation rule " ++ rule.quoted ++ " has an empty token"
  | .worded message => message

end TemplateAudit
