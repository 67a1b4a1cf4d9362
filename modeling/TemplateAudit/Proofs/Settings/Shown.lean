import TemplateAudit.Proofs.Steps
import TemplateAudit.Toml.Value

namespace TemplateAudit

namespace Setting

/-- The values right inside a list or a table. -/
def members : Setting → List Setting
  | .list items => items
  | .table entries => entries.map Prod.snd
  | _ => []

/-- The value has the other one in it, that many values deep. -/
inductive Holds : Setting → Nat → Setting → Prop where
  | here (value : Setting) : Holds value 0 value
  | member {value item inner : Setting} {depth : Nat} (hmem : item ∈ value.members) (h : Holds item depth inner) :
      Holds value (depth + 1) inner

/-- A value can be shown: there is room for all values inside one another, and no integer is too long. -/
structure IsShowable (room : Nat) (value : Setting) : Prop where
  depth : ∀ depth inner, value.Holds depth inner → depth + inner.innerValues < room
  integers : ∀ depth n, value.Holds depth (.int n) → Numeral.isTooLong n = false

/-- What first keeps a value from being shown. -/
inductive Unshowable : Nat → Setting → ShowFault → Prop where
  /-- There is no room for the value, or for what is shown inside a scalar. -/
  | nestedTooDeeply {room : Nat} {value : Setting} (h : room ≤ value.innerValues) :
      Unshowable room value .nestedTooDeeply
  | integerTooLong {room : Nat} {n : Int} (h : Numeral.isTooLong n = true) :
      Unshowable (room + 1) (.int n) .integerTooLong
  | member {room : Nat} {value item : Setting} {before : List Setting} {fault : ShowFault}
      (hitem : Reaches (IsShowable room) value.members before item) (h : Unshowable room item fault) :
      Unshowable (room + 1) value fault

variable {room : Nat} {value : Setting} {fault : ShowFault}

end Setting

end TemplateAudit
