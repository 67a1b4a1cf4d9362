import TemplateAudit.Message.Kind.Entry

namespace TemplateAudit

namespace Kind

open Entry

/-- What is said of lists. -/
def listDescription : List String :=
  ["Built-in immutable sequence.", "",
   "If no argument is given, the constructor returns an empty tuple.",
   "If iterable is specified the tuple is initialized from iterable's items.", "",
   "If the argument is a tuple, the return value is the same object."]

/-- What lists have. -/
def listEntries : List Entry :=
  List.flatten
  [[.maker],
   operators ["__repr__", "__hash__", "__getattribute__", "__lt__", "__le__", "__eq__", "__ne__",
      "__gt__", "__ge__", "__iter__", "__len__", "__getitem__", "__add__", "__mul__", "__rmul__",
      "__contains__"],
   [.method "__getnewargs__" "($self, /)" [],
    .method "index" "($self, value, start=0, stop=sys.maxsize, /)"
      ["Return first index of value.", "", "Raises ValueError if the value is not present."],
    .method "count" "($self, value, /)" ["Return number of occurrences of value."],
    .bareKindMethod "__class_getitem__" ["See PEP 585"],
    .remark]]

/-- What is said of mappings. -/
def mappingDescription : List String :=
  ["dict() -> new empty dictionary",
   "dict(mapping) -> new dictionary initialized from a mapping object's",
   "    (key, value) pairs", "dict(iterable) -> new dictionary initialized as if via:",
   "    d = \x7b\x7d", "    for k, v in iterable:", "        d[k] = v",
   "dict(**kwargs) -> new dictionary initialized with the name=value pairs",
   "    in the keyword argument list.  For example:  dict(one=1, two=2)"]

/-- What mappings have. -/
def mappingEntries : List Entry :=
  List.flatten
  [[.maker],
   operators ["__repr__"],
   [.absent "__hash__"],
   operators ["__getattribute__", "__lt__", "__le__", "__eq__", "__ne__", "__gt__", "__ge__",
      "__iter__", "__init__", "__or__", "__ror__", "__ior__", "__len__"],
   [.bareMethod "__getitem__" ["x.__getitem__(y) <==> x[y]"]],
   operators ["__setitem__", "__delitem__"],
   [.method "__contains__" "($self, key, /)"
      ["True if the dictionary has the specified key, else False."],
    .bareMethod "__sizeof__" ["D.__sizeof__() -> size of D in memory, in bytes"],
    .method "get" "($self, key, default=None, /)"
      ["Return the value for key if key is in the dictionary, else default."],
    .method "setdefault" "($self, key, default=None, /)"
      ["Insert key with a value of default if key is not in the dictionary.", "",
       "Return the value for key if key is in the dictionary, else default."],
    .method "pop" "($self, key, default=<unrepresentable>, /)"
      ["D.pop(k[,d]) -> v, remove specified key and return the corresponding value.", "",
       "If the key is not found, return the default if given; otherwise,", "raise a KeyError."],
    .method "popitem" "($self, /)"
      ["Remove and return a (key, value) pair as a 2-tuple.", "",
       "Pairs are returned in LIFO (last-in, first-out) order.",
       "Raises KeyError if the dict is empty."],
    .bareMethod "keys" ["D.keys() -> a set-like object providing a view on D's keys"],
    .bareMethod "items" ["D.items() -> a set-like object providing a view on D's items"],
    .bareMethod "values" ["D.values() -> an object providing a view on D's values"],
    .bareMethod "update"
      ["D.update([E, ]**F) -> None.  Update D from dict/iterable E and F.",
       "If E is present and has a .keys() method, then does:  for k in E: D[k] = E[k]",
       "If E is present and lacks a .keys() method, then does:  for k, v in E: D[k] = v",
       "In either case, this is followed by: for k in F:  D[k] = F[k]"],
    .kindMethod "fromkeys" "($type, iterable, value=None, /)"
      ["Create a new dictionary with keys from iterable and values set to value."],
    .bareMethod "clear" ["D.clear() -> None.  Remove all items from D."],
    .bareMethod "copy" ["D.copy() -> a shallow copy of D"],
    .method "__reversed__" "($self, /)" ["Return a reverse iterator over the dict keys."],
    .bareKindMethod "__class_getitem__" ["See PEP 585"],
    .remark]]

/-- What tables of entries have. -/
def tableEntries : List Entry :=
  List.flatten
  [[.maker],
   operators ["__repr__", "__str__", "__getattribute__", "__lt__", "__le__", "__eq__", "__ne__",
      "__gt__", "__ge__", "__iter__", "__or__", "__ror__", "__ior__", "__len__", "__getitem__",
      "__contains__"],
   [.bareMethod "get" ["D.get(k[,d]) -> D[k] if k in D, else d.  d defaults to None."],
    .bareMethod "keys" ["D.keys() -> a set-like object providing a view on D's keys"],
    .bareMethod "values" ["D.values() -> an object providing a view on D's values"],
    .bareMethod "items" ["D.items() -> a set-like object providing a view on D's items"],
    .bareMethod "copy" ["D.copy() -> a shallow copy of D"],
    .bareKindMethod "__class_getitem__" ["See PEP 585"],
    .bareMethod "__reversed__" ["D.__reversed__() -> reverse iterator"],
    .absent "__doc__",
    .absent "__hash__"]]

end Kind

end TemplateAudit
