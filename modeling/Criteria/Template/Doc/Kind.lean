/-
# What is written about the members of kinds and of collections
-/
import Criteria.Template.Doc.Basic

namespace Criteria
namespace Template
namespace MemberDoc

/-- The members of any item. -/
def ofAny : List MemberDoc := [
  ⟨"__reduce_ex__", some "($self, protocol, /)", some "Helper for pickle."⟩,
  ofSelf "__reduce__" "Helper for pickle.",
  ofSelf "__getstate__" "Helper for pickle.",
  ⟨"__subclasshook__", none, some (
    "Abstract classes can override this to customize issubclass().\n\n" ++
    "This is invoked early on by abc.ABCMeta.__subclasscheck__().\n" ++
    "It should return True, False or NotImplemented.  If it returns\n" ++
    "NotImplemented, the normal algorithm is used.  Otherwise, it\n" ++
    "overrides the normal algorithm (and the outcome is cached).\n")⟩,
  ⟨"__init_subclass__", none, some (
    "This method is called when a class is subclassed.\n\n" ++
    "The default implementation does nothing. It may be\noverridden to extend subclasses.\n")⟩,
  ⟨"__format__", some "($self, format_spec, /)", some "Default object formatter."⟩,
  ofSelf "__sizeof__" "Size of object in memory, in bytes.",
  ofSelf "__dir__" "Default dir() implementation.",
  ⟨"__class__", none, some "the object's class"⟩]

/-- The members of kinds. -/
def ofKind : List MemberDoc := [
  ofSelf "mro" "Return a type's method resolution order.",
  ofSelf "__subclasses__" "Return a list of immediate subclasses.",
  ⟨"__prepare__", none, some (
    "__prepare__() -> dict\nused to create the namespace for the class statement")⟩,
  ⟨"__instancecheck__", some "($self, instance, /)", some "Check if an object is an instance."⟩,
  ⟨"__subclasscheck__", some "($self, subclass, /)", some "Check if a class is a subclass."⟩,
  ofSelf "__dir__" "Specialized __dir__ implementation for types.",
  ofSelf "__sizeof__" "Return memory consumption of the type object."]

/-- The members of kinds that are applied to a parameter. -/
def ofApplied : List MemberDoc := [
  ⟨"__parameters__", none, some "Type variables in the GenericAlias."⟩]

/-- The members of tuples. -/
def ofTuple : List MemberDoc := [
  ⟨"__getnewargs__", some "($self, /)", none⟩,
  ⟨"index", some "($self, value, start=0, stop=sys.maxsize, /)", some (
    "Return first index of value.\n\nRaises ValueError if the value is not present.")⟩,
  ofSelfAnd "count" "Return number of occurrences of value.",
  ⟨"__class_getitem__", none, some "See PEP 585"⟩]

/-- The members of dictionaries. -/
def ofDictionary : List MemberDoc := [
  ⟨"__getitem__", none, some "x.__getitem__(y) <==> x[y]"⟩,
  ⟨"__contains__", some "($self, key, /)", some (
    "True if the dictionary has the specified key, else False.")⟩,
  ⟨"__sizeof__", none, some "D.__sizeof__() -> size of D in memory, in bytes"⟩,
  ⟨"get", some "($self, key, default=None, /)", some (
    "Return the value for key if key is in the dictionary, else default.")⟩,
  ⟨"setdefault", some "($self, key, default=None, /)", some (
    "Insert key with a value of default if key is not in the dictionary.\n\n" ++
    "Return the value for key if key is in the dictionary, else default.")⟩,
  ⟨"pop", some "($self, key, default=<unrepresentable>, /)", some (
    "D.pop(k[,d]) -> v, remove specified key and return the corresponding value.\n\n" ++
    "If the key is not found, return the default if given; otherwise,\nraise a KeyError.")⟩,
  ofSelf "popitem" (
    "Remove and return a (key, value) pair as a 2-tuple.\n\n" ++
    "Pairs are returned in LIFO (last-in, first-out) order.\n" ++
    "Raises KeyError if the dict is empty."),
  ⟨"keys", none, some "D.keys() -> a set-like object providing a view on D's keys"⟩,
  ⟨"items", none, some "D.items() -> a set-like object providing a view on D's items"⟩,
  ⟨"values", none, some "D.values() -> an object providing a view on D's values"⟩,
  ⟨"update", none, some (
    "D.update([E, ]**F) -> None.  Update D from dict/iterable E and F.\n" ++
    "If E is present and has a .keys() method, then does:  for k in E: D[k] = E[k]\n" ++
    "If E is present and lacks a .keys() method, then does:  for k, v in E: D[k] = v\n" ++
    "In either case, this is followed by: for k in F:  D[k] = F[k]")⟩,
  ⟨"fromkeys", some "($type, iterable, value=None, /)", some (
    "Create a new dictionary with keys from iterable and values set to value.")⟩,
  ⟨"clear", none, some "D.clear() -> None.  Remove all items from D."⟩,
  ⟨"copy", none, some "D.copy() -> a shallow copy of D"⟩,
  ofSelf "__reversed__" "Return a reverse iterator over the dict keys.",
  ⟨"__class_getitem__", none, some "See PEP 585"⟩]

/-- The members of what shows the members of a kind. -/
def ofMembers : List MemberDoc := [
  ⟨"get", none, some "D.get(k[,d]) -> D[k] if k in D, else d.  d defaults to None."⟩,
  ⟨"keys", none, some "D.keys() -> a set-like object providing a view on D's keys"⟩,
  ⟨"values", none, some "D.values() -> an object providing a view on D's values"⟩,
  ⟨"items", none, some "D.items() -> a set-like object providing a view on D's items"⟩,
  ⟨"copy", none, some "D.copy() -> a shallow copy of D"⟩,
  ⟨"__class_getitem__", none, some "See PEP 585"⟩,
  ⟨"__reversed__", none, some "D.__reversed__() -> reverse iterator"⟩]

end MemberDoc
end Template
end Criteria
