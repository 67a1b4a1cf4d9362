import TemplateAudit.Message.Basic
import TemplateAudit.Rule.Finder

namespace TemplateAudit

/-- How a finder may end. -/
inductive FinderOutcome where
  /-- The offsets of all matches. -/
  | found (offsets : List Int)
  /-- The finder was given arguments that make no sense. -/
  | refused (error : ArgumentError)
  /-- The finder broke down on this text. -/
  | failed
deriving DecidableEq, Repr

/-- The outcome of a finder that can only refuse its arguments. -/
def FinderOutcome.ofOffsets : Except ArgumentError (List Nat) → FinderOutcome
  | .ok offsets => .found (offsets.map Int.ofNat)
  | .error error => .refused error

/-- One deprecated usage to look for. Every offset that `find` gives for a text is a match as long
    as the token. -/
structure Rule where
  name : Text
  token : Text
  find : Text → FinderOutcome
  message : Message
  name_ne_nil : name ≠ []
  token_ne_nil : token ≠ []

namespace Rule

/-- A rule from its parts; name and token must not be empty. -/
def make (name token : Text) (find : Text → FinderOutcome) (message : Message) :
    Except ArgumentError Rule :=
  if hname : name = [] then .error .unnamedRule
  else if htoken : token = [] then .error (.emptyToken name)
  else .ok ⟨name, token, find, message, hname, htoken⟩

/-- Finds a literal selector. -/
def selectorFinder (selector text : Text) : FinderOutcome :=
  .ofOffsets (findSelector text selector)

/-- Finds an output on the given tags. -/
def outputFinder (name : Text) (tagNames : List Text) (text : Text) : FinderOutcome :=
  .ofOffsets (findOutputs text name tagNames)

/-- Finds an input on the given tags. -/
def inputFinder (name : Text) (tagNames : List Text) (text : Text) : FinderOutcome :=
  .ofOffsets (findInputs text name tagNames)

/-- The rule against a literal selector. -/
def selector (name selector : Text) (message : Message) : Except ArgumentError Rule :=
  make name selector (selectorFinder selector) message

/-- The rule against an output on the given tags. -/
def output (name event : Text) (tagNames : List Text) (message : Message) :
    Except ArgumentError Rule :=
  make name event (outputFinder event tagNames) message

/-- The rule against an input on the given tags. -/
def input (name property : Text) (tagNames : List Text) (message : Message) :
    Except ArgumentError Rule :=
  make name property (inputFinder property tagNames) message

end Rule

end TemplateAudit
