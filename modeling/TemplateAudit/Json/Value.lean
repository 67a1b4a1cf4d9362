import TemplateAudit.Number.Binary64
import TemplateAudit.Text.Basic

namespace TemplateAudit

/-- A JSON value. JSON values. Integers are unbounded and kept apart from numbers written with a fraction or an
    exponent, and the members of an object keep the order in which they are written. -/
inductive Json where
  | null
  | bool (value : Bool)
  | int (value : Int)
  | float (value : Binary64)
  | string (value : Text)
  | array (items : List Json)
  | object (members : List (Text × Json))
deriving Repr

namespace Json

/-- The value of the last member with the given key. -/
def member? (key : Text) : List (Text × Json) → Option Json
  | [] => none
  | (name, value) :: rest => (member? key rest).or (if name = key then some value else none)

end Json

end TemplateAudit
