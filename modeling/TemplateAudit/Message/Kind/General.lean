import TemplateAudit.Message.Kind.Entry

namespace TemplateAudit

namespace Kind

open Entry

/-- What is said of objects in general. -/
def objectDescription : List String :=
  ["The base class of the class hierarchy.", "",
   "When called, it accepts no arguments and returns a new featureless",
   "instance that has no instance attributes and cannot be given any.", ""]

/-- What everything has. -/
def objectEntries : List Entry :=
  List.flatten
  [[.maker],
   operators ["__repr__", "__hash__", "__str__", "__getattribute__", "__setattr__",
      "__delattr__", "__lt__", "__le__", "__eq__", "__ne__", "__gt__", "__ge__", "__init__"],
   [.method "__reduce_ex__" "($self, protocol, /)" ["Helper for pickle."],
    .method "__reduce__" "($self, /)" ["Helper for pickle."],
    .method "__getstate__" "($self, /)" ["Helper for pickle."],
    .bareKindMethod "__subclasshook__"
      ["Abstract classes can override this to customize issubclass().", "",
       "This is invoked early on by abc.ABCMeta.__subclasscheck__().",
       "It should return True, False or NotImplemented.  If it returns",
       "NotImplemented, the normal algorithm is used.  Otherwise, it",
       "overrides the normal algorithm (and the outcome is cached).", ""],
    .bareKindMethod "__init_subclass__"
      ["This method is called when a class is subclassed.", "",
       "The default implementation does nothing. It may be", "overridden to extend subclasses.",
       ""],
    .method "__format__" "($self, format_spec, /)" ["Default object formatter."],
    .method "__sizeof__" "($self, /)" ["Size of object in memory, in bytes."],
    .method "__dir__" "($self, /)" ["Default dir() implementation."],
    .computed "__class__" ["the object's class"],
    .remark]]

/-- What is said of kinds. -/
def typeDescription : List String :=
  ["type(object) -> the object's type", "type(name, bases, dict, **kwds) -> a new type"]

/-- What kinds have. -/
def typeEntries : List Entry :=
  List.flatten
  [[.maker],
   operators ["__repr__", "__call__", "__getattribute__", "__setattr__", "__delattr__",
      "__init__", "__or__", "__ror__"],
   [.method "mro" "($self, /)" ["Return a type's method resolution order."],
    .method "__subclasses__" "($self, /)" ["Return a list of immediate subclasses."],
    .bareKindMethod "__prepare__"
      ["__prepare__() -> dict", "used to create the namespace for the class statement"],
    .method "__instancecheck__" "($self, instance, /)" ["Check if an object is an instance."],
    .method "__subclasscheck__" "($self, subclass, /)" ["Check if a class is a subclass."],
    .method "__dir__" "($self, /)" ["Specialized __dir__ implementation for types."],
    .method "__sizeof__" "($self, /)" ["Return memory consumption of the type object."]],
   storedFacts ["__basicsize__", "__itemsize__", "__flags__", "__weakrefoffset__", "__base__",
      "__dictoffset__", "__mro__"],
   computedFacts ["__name__", "__qualname__", "__bases__", "__module__", "__abstractmethods__",
      "__dict__", "__doc__", "__text_signature__", "__annotations__"]]

/-- What nothing has. -/
def nothingEntries : List Entry :=
  List.flatten
  [[.maker],
   operators ["__repr__", "__bool__"],
   [.absent "__doc__"]]

/-- What is said of kinds with an argument. -/
def appliedDescription : List String :=
  ["Represent a PEP 585 generic type", "",
   "E.g. for t = list[int], t.__origin__ is list and t.__args__ is (int,)."]

/-- What kinds with an argument have. -/
def appliedEntries : List Entry :=
  List.flatten
  [[.maker],
   operators ["__repr__", "__hash__", "__call__", "__getattribute__", "__lt__", "__le__",
      "__eq__", "__ne__", "__gt__", "__ge__", "__iter__", "__or__", "__ror__", "__getitem__"],
   [.bareMethod "__mro_entries__" [],
    .bareMethod "__instancecheck__" [],
    .bareMethod "__subclasscheck__" [],
    .bareMethod "__reduce__" [],
    .bareMethod "__dir__" []],
   storedFacts ["__origin__", "__args__", "__unpacked__"],
   [.computed "__parameters__" ["Type variables in the GenericAlias."]],
   computedFacts ["__typing_unpacked_tuple_args__"],
   [.remark]]

end Kind

end TemplateAudit
