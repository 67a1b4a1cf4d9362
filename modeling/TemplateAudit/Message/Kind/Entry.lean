import TemplateAudit.Text.Basic

namespace TemplateAudit

namespace Entry

/-- How an entry serves the values of a kind. -/
inductive Form where
  /-- An operation that stands behind a sign or a form of expression. -/
  | operator
  /-- An operation that is called by name. -/
  | method
  /-- An operation that is called by name and takes the kind, not one of its values. -/
  | kindMethod
  /-- The operation that makes the values of the kind. -/
  | maker
  /-- An operation that is called by name and takes neither. -/
  | loose
  /-- A fact that is worked out when it is asked for. -/
  | computed
  /-- A fact that every value holds. -/
  | stored
  /-- The description of the kind. -/
  | remark
  /-- A name that stands for nothing. -/
  | absent
deriving DecidableEq, Repr

end Entry

/-- An entry. An entry names an operation or a fact and says how it serves the values of the kind. An operator is the
    same wherever it is defined, so what is said of operators stands here once; what is said of the other entries
    stands in the tables of the kinds. -/
structure Entry where
  name : String
  form : Entry.Form
  /-- What it takes, if that is written down. -/
  signature : Option String
  /-- The lines of its description; none if there is no description. -/
  description : List String
deriving DecidableEq, Repr

namespace Entry

/-- Lines as one text; none if there are no lines. -/
def text? (lines : List String) : Option Text :=
  if lines.isEmpty then none else some (Text.join "\n" (lines.map String.toList))

/-- What is said of operators: the name, what it takes, the description. -/
def operatorRemarks : List (String × String × String) :=
  [("__repr__", "($self, /)", "Return repr(self)."),
   ("__hash__", "($self, /)", "Return hash(self)."),
   ("__str__", "($self, /)", "Return str(self)."),
   ("__getattribute__", "($self, name, /)", "Return getattr(self, name)."),
   ("__setattr__", "($self, name, value, /)", "Implement setattr(self, name, value)."),
   ("__delattr__", "($self, name, /)", "Implement delattr(self, name)."),
   ("__lt__", "($self, value, /)", "Return self<value."),
   ("__le__", "($self, value, /)", "Return self<=value."),
   ("__eq__", "($self, value, /)", "Return self==value."),
   ("__ne__", "($self, value, /)", "Return self!=value."),
   ("__gt__", "($self, value, /)", "Return self>value."),
   ("__ge__", "($self, value, /)", "Return self>=value."),
   ("__init__", "($self, /, *args, **kwargs)",
    "Initialize self.  See help(type(self)) for accurate signature."),
   ("__call__", "($self, /, *args, **kwargs)", "Call self as a function."),
   ("__or__", "($self, value, /)", "Return self|value."),
   ("__ror__", "($self, value, /)", "Return value|self."),
   ("__iter__", "($self, /)", "Implement iter(self)."),
   ("__mod__", "($self, value, /)", "Return self%value."),
   ("__rmod__", "($self, value, /)", "Return value%self."),
   ("__len__", "($self, /)", "Return len(self)."),
   ("__getitem__", "($self, key, /)", "Return self[key]."),
   ("__add__", "($self, value, /)", "Return self+value."),
   ("__mul__", "($self, value, /)", "Return self*value."),
   ("__rmul__", "($self, value, /)", "Return value*self."),
   ("__contains__", "($self, key, /)", "Return key in self."),
   ("__radd__", "($self, value, /)", "Return value+self."),
   ("__sub__", "($self, value, /)", "Return self-value."),
   ("__rsub__", "($self, value, /)", "Return value-self."),
   ("__divmod__", "($self, value, /)", "Return divmod(self, value)."),
   ("__rdivmod__", "($self, value, /)", "Return divmod(value, self)."),
   ("__pow__", "($self, value, mod=None, /)", "Return pow(self, value, mod)."),
   ("__rpow__", "($self, value, mod=None, /)", "Return pow(value, self, mod)."),
   ("__neg__", "($self, /)", "-self"),
   ("__pos__", "($self, /)", "+self"),
   ("__abs__", "($self, /)", "abs(self)"),
   ("__bool__", "($self, /)", "True if self else False"),
   ("__invert__", "($self, /)", "~self"),
   ("__lshift__", "($self, value, /)", "Return self<<value."),
   ("__rlshift__", "($self, value, /)", "Return value<<self."),
   ("__rshift__", "($self, value, /)", "Return self>>value."),
   ("__rrshift__", "($self, value, /)", "Return value>>self."),
   ("__and__", "($self, value, /)", "Return self&value."),
   ("__rand__", "($self, value, /)", "Return value&self."),
   ("__xor__", "($self, value, /)", "Return self^value."),
   ("__rxor__", "($self, value, /)", "Return value^self."),
   ("__int__", "($self, /)", "int(self)"),
   ("__float__", "($self, /)", "float(self)"),
   ("__floordiv__", "($self, value, /)", "Return self//value."),
   ("__rfloordiv__", "($self, value, /)", "Return value//self."),
   ("__truediv__", "($self, value, /)", "Return self/value."),
   ("__rtruediv__", "($self, value, /)", "Return value/self."),
   ("__index__", "($self, /)",
    "Return self converted to an integer, if self is suitable for use as an index into a list."),
   ("__ior__", "($self, value, /)", "Return self|=value."),
   ("__setitem__", "($self, key, value, /)", "Set self[key] to value."),
   ("__delitem__", "($self, key, /)", "Delete self[key]."),
   ("__get__", "($self, instance, owner=None, /)",
    "Return an attribute of instance, which is of type owner."),
   ("__set__", "($self, instance, value, /)", "Set an attribute of instance to value."),
   ("__delete__", "($self, instance, /)", "Delete an attribute of instance.")]

/-- The entry of an operator. -/
def operator (name : String) : Entry :=
  match operatorRemarks.lookup name with
  | some (signature, description) => ⟨name, .operator, some signature, [description]⟩
  | none => ⟨name, .operator, none, []⟩

/-- The entries of operators. -/
def operators (names : List String) : List Entry := names.map operator

/-- The entry of a method. -/
def method (name signature : String) (description : List String) : Entry :=
  ⟨name, .method, some signature, description⟩

/-- The entry of a method of which it is not written down what it takes. -/
def bareMethod (name : String) (description : List String) : Entry :=
  ⟨name, .method, none, description⟩

/-- The entry of a method of the kind. -/
def kindMethod (name signature : String) (description : List String) : Entry :=
  ⟨name, .kindMethod, some signature, description⟩

/-- The entry of a method of the kind of which it is not written down what it takes. -/
def bareKindMethod (name : String) (description : List String) : Entry :=
  ⟨name, .kindMethod, none, description⟩

/-- The entry of a loose method. -/
def loose (name signature : String) (description : List String) : Entry :=
  ⟨name, .loose, some signature, description⟩

/-- The entry of the operation that makes values. -/
def maker : Entry :=
  ⟨"__new__", .maker, some "($type, *args, **kwargs)",
    ["Create and return a new object.  See help(type) for accurate signature."]⟩

/-- The entry of a computed fact. -/
def computed (name : String) (description : List String) : Entry :=
  ⟨name, .computed, none, description⟩

/-- The entries of computed facts without a description. -/
def computedFacts (names : List String) : List Entry := names.map (computed · [])

/-- The entry of a stored fact. -/
def stored (name : String) : Entry := ⟨name, .stored, none, []⟩

/-- The entries of stored facts. -/
def storedFacts (names : List String) : List Entry := names.map stored

/-- The entry of the description of the kind. -/
def remark : Entry := ⟨"__doc__", .remark, none, []⟩

/-- The entry of a name that stands for nothing. -/
def absent (name : String) : Entry := ⟨name, .absent, none, []⟩

end Entry

end TemplateAudit
