import TemplateAudit.Message.Kind.Entry

namespace TemplateAudit

namespace Kind

open Entry

/-- What methods bound to a value have. -/
def methodEntries : List Entry :=
  List.flatten
  [operators ["__repr__", "__hash__", "__call__", "__getattribute__", "__lt__", "__le__",
      "__eq__", "__ne__", "__gt__", "__ge__"],
   [.bareMethod "__reduce__" []],
   storedFacts ["__module__"],
   computedFacts ["__doc__", "__name__", "__qualname__", "__self__", "__text_signature__"]]

/-- What operators bound to a value have. -/
def operatorEntries : List Entry :=
  List.flatten
  [operators ["__repr__", "__hash__", "__call__", "__getattribute__", "__lt__", "__le__",
      "__eq__", "__ne__", "__gt__", "__ge__"],
   [.bareMethod "__reduce__" []],
   storedFacts ["__self__"],
   computedFacts ["__objclass__", "__name__", "__qualname__", "__doc__", "__text_signature__"]]

/-- What methods not bound to a value have. -/
def unboundMethodEntries : List Entry :=
  List.flatten
  [operators ["__repr__", "__call__", "__getattribute__", "__get__"],
   [.bareMethod "__reduce__" []],
   storedFacts ["__objclass__", "__name__"],
   computedFacts ["__doc__", "__qualname__", "__text_signature__"]]

/-- What operators not bound to a value have. -/
def unboundOperatorEntries : List Entry :=
  List.flatten
  [operators ["__repr__", "__call__", "__getattribute__", "__get__"],
   [.bareMethod "__reduce__" []],
   storedFacts ["__objclass__", "__name__"],
   computedFacts ["__doc__", "__qualname__", "__text_signature__"]]

/-- What methods of kinds have. -/
def kindMethodEntries : List Entry :=
  List.flatten
  [operators ["__repr__", "__call__", "__getattribute__", "__get__"],
   storedFacts ["__objclass__", "__name__"],
   computedFacts ["__doc__", "__qualname__", "__text_signature__"]]

/-- What computed facts have. -/
def computedEntries : List Entry :=
  List.flatten
  [operators ["__repr__", "__getattribute__", "__get__", "__set__", "__delete__"],
   storedFacts ["__objclass__", "__name__"],
   computedFacts ["__doc__", "__qualname__"]]

/-- What stored facts have. -/
def storedEntries : List Entry :=
  List.flatten
  [operators ["__repr__", "__getattribute__", "__get__", "__set__", "__delete__"],
   [.bareMethod "__reduce__" []],
   storedFacts ["__objclass__", "__name__"],
   computedFacts ["__doc__", "__qualname__"]]

/-- What is said of loose methods. -/
def looseDescription : List String :=
  ["staticmethod(function) -> method", "", "Convert a function to be a static method.", "",
   "A static method does not receive an implicit first argument.",
   "To declare a static method, use this idiom:", "", "     class C:", "         @staticmethod",
   "         def f(arg1, arg2, argN):", "             ...", "",
   "It can be called either on the class (e.g. C.f()) or on an instance",
   "(e.g. C().f()). Both the class and the instance are ignored, and",
   "neither is passed implicitly as the first argument to the method.", "",
   "Static methods in Python are similar to those found in Java or C++.",
   "For a more advanced concept, see the classmethod builtin."]

/-- What loose methods have. -/
def looseEntries : List Entry :=
  List.flatten
  [[.maker],
   operators ["__repr__", "__call__", "__get__", "__init__"],
   storedFacts ["__func__", "__wrapped__"],
   computedFacts ["__isabstractmethod__", "__dict__"],
   [.remark]]

end Kind

end TemplateAudit
