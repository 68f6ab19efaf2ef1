/-
# Members of kinds

What can be asked of an item by name are the members of its kind and of the kinds above it,
and the nearest kind that has a member of the name is the one that answers.  The role of a
member says what the answer is.

* `ItemKind.own` lists the members that a kind has itself.
* `ItemKind.member?` is the member that answers to a name.
-/
import Criteria.Template.Doc.Kind
import Criteria.Template.Doc.Number
import Criteria.Template.Doc.Operator
import Criteria.Template.Doc.Text
import Criteria.Template.ItemKind

namespace Criteria
namespace Template

/-- What a member does for an item. -/
inductive MemberRole where
  /-- It is what a sign or a word of the language does with the item. -/
  | operator
  /-- It can be called with the item. -/
  | method
  /-- It can be called with the kind of the item. -/
  | kindMethod
  /-- It is computed from the item. -/
  | property
  /-- It is read off the item. -/
  | slot
  /-- It can be called with nothing. -/
  | free
  /-- It makes items of the kind. -/
  | maker
  /-- It is what is written about the kind. -/
  | doc
  /-- It takes back what a kind above has. -/
  | missing
deriving DecidableEq

structure Member where
  owner : ItemKind
  role : MemberRole
  name : List Char

namespace ItemKind

/-! ## The members of each kind -/

/-- The comparisons of two items. -/
def comparisons : List String := ["__lt__", "__le__", "__eq__", "__ne__", "__gt__", "__ge__"]

/-- The arithmetic that is the same for all numbers. -/
def arithmetic : List String :=
  ["__add__", "__radd__", "__sub__", "__rsub__", "__mul__", "__rmul__", "__mod__", "__rmod__",
    "__divmod__", "__rdivmod__", "__pow__", "__rpow__", "__neg__", "__pos__", "__abs__",
    "__bool__", "__int__", "__float__", "__floordiv__", "__rfloordiv__", "__truediv__",
    "__rtruediv__"]

/-- The arithmetic of bits. -/
def bitArithmetic : List String :=
  ["__and__", "__rand__", "__xor__", "__rxor__", "__or__", "__ror__"]

/-- The names of the methods of a text. -/
def textMethods : List String :=
  ["encode", "replace", "split", "rsplit", "join", "capitalize", "casefold", "title", "center",
    "count", "expandtabs", "find", "partition", "index", "ljust", "lower", "lstrip", "rfind",
    "rindex", "rjust", "rstrip", "rpartition", "splitlines", "strip", "swapcase", "translate",
    "upper", "startswith", "endswith", "removeprefix", "removesuffix", "isascii", "islower",
    "isupper", "istitle", "isspace", "isdecimal", "isdigit", "isnumeric", "isalpha", "isalnum",
    "isidentifier", "isprintable", "zfill", "format", "format_map", "__format__", "__sizeof__",
    "__getnewargs__"]

/-- The names of the members that a kind has itself, by role. -/
def own : ItemKind → List (MemberRole × List String)
  | .whole => [
    (.maker, ["__new__"]),
    (.operator, ["__repr__", "__hash__", "__getattribute__"] ++ comparisons ++ arithmetic ++
      ["__invert__", "__lshift__", "__rlshift__", "__rshift__", "__rrshift__"] ++
      bitArithmetic ++ ["__index__"]),
    (.method, ["conjugate", "bit_length", "bit_count", "to_bytes", "as_integer_ratio",
      "__trunc__", "__floor__", "__ceil__", "__round__", "__getnewargs__", "__format__",
      "__sizeof__"]),
    (.kindMethod, ["from_bytes"]),
    (.property, ["real", "imag", "numerator", "denominator"]),
    (.doc, ["__doc__"])]
  | .real => [
    (.maker, ["__new__"]),
    (.operator, ["__repr__", "__hash__", "__getattribute__"] ++ comparisons ++ arithmetic),
    (.method, ["conjugate", "__trunc__", "__floor__", "__ceil__", "__round__",
      "as_integer_ratio", "hex", "is_integer", "__getnewargs__", "__format__"]),
    (.kindMethod, ["fromhex", "__getformat__"]),
    (.property, ["real", "imag"]),
    (.doc, ["__doc__"])]
  | .truth => [
    (.maker, ["__new__"]),
    (.operator, "__repr__" :: bitArithmetic),
    (.doc, ["__doc__"])]
  | .text => [
    (.maker, ["__new__"]),
    (.operator, ["__repr__", "__hash__", "__str__", "__getattribute__"] ++ comparisons ++
      ["__iter__", "__mod__", "__rmod__", "__len__", "__getitem__", "__add__", "__mul__",
        "__rmul__", "__contains__"]),
    (.method, textMethods),
    (.free, ["maketrans"]),
    (.doc, ["__doc__"])]
  | .nothing => [
    (.maker, ["__new__"]),
    (.operator, ["__repr__", "__bool__"]),
    (.doc, ["__doc__"])]
  | .tuple => [
    (.maker, ["__new__"]),
    (.operator, ["__repr__", "__hash__", "__getattribute__"] ++ comparisons ++
      ["__iter__", "__len__", "__getitem__", "__add__", "__mul__", "__rmul__", "__contains__"]),
    (.method, ["__getnewargs__", "index", "count"]),
    (.kindMethod, ["__class_getitem__"]),
    (.doc, ["__doc__"])]
  | .kind => [
    (.maker, ["__new__"]),
    (.operator, ["__repr__", "__call__", "__getattribute__", "__setattr__", "__delattr__",
      "__init__", "__or__", "__ror__"]),
    (.method, ["mro", "__subclasses__", "__instancecheck__", "__subclasscheck__", "__dir__",
      "__sizeof__"]),
    (.kindMethod, ["__prepare__"]),
    (.slot, ["__basicsize__", "__itemsize__", "__flags__", "__weakrefoffset__", "__base__",
      "__dictoffset__", "__mro__"]),
    (.property, ["__name__", "__qualname__", "__bases__", "__module__", "__abstractmethods__",
      "__dict__", "__doc__", "__text_signature__", "__annotations__"])]
  | .any => [
    (.maker, ["__new__"]),
    (.operator, ["__repr__", "__hash__", "__str__", "__getattribute__", "__setattr__",
      "__delattr__"] ++ comparisons ++ ["__init__"]),
    (.method, ["__reduce_ex__", "__reduce__", "__getstate__", "__format__", "__sizeof__",
      "__dir__"]),
    (.kindMethod, ["__subclasshook__", "__init_subclass__"]),
    (.property, ["__class__"]),
    (.doc, ["__doc__"])]
  | .applied => [
    (.maker, ["__new__"]),
    (.operator, ["__repr__", "__hash__", "__call__", "__getattribute__"] ++ comparisons ++
      ["__iter__", "__or__", "__ror__", "__getitem__"]),
    (.method, ["__mro_entries__", "__instancecheck__", "__subclasscheck__", "__reduce__",
      "__dir__"]),
    (.slot, ["__origin__", "__args__", "__unpacked__"]),
    (.property, ["__parameters__", "__typing_unpacked_tuple_args__"]),
    (.doc, ["__doc__"])]
  | .dictionary => [
    (.maker, ["__new__"]),
    (.operator, ["__repr__", "__getattribute__"] ++ comparisons ++ ["__iter__", "__init__",
      "__or__", "__ror__", "__ior__", "__len__", "__setitem__", "__delitem__"]),
    (.method, ["__getitem__", "__contains__", "__sizeof__", "get", "setdefault", "pop",
      "popitem", "keys", "items", "values", "update", "clear", "copy", "__reversed__"]),
    (.kindMethod, ["fromkeys", "__class_getitem__"]),
    (.doc, ["__doc__"]),
    (.missing, ["__hash__"])]
  | .members => [
    (.maker, ["__new__"]),
    (.operator, ["__repr__", "__str__", "__getattribute__"] ++ comparisons ++
      ["__iter__", "__or__", "__ror__", "__ior__", "__len__", "__getitem__", "__contains__"]),
    (.method, ["get", "keys", "values", "items", "copy", "__reversed__"]),
    (.kindMethod, ["__class_getitem__"]),
    (.doc, ["__doc__"]),
    (.missing, ["__hash__"])]
  | .operator | .method => [
    (.operator, ["__repr__", "__call__", "__getattribute__", "__get__"]),
    (.method, ["__reduce__"]),
    (.slot, ["__objclass__", "__name__"]),
    (.property, ["__doc__", "__qualname__", "__text_signature__"])]
  | .kindMethod => [
    (.operator, ["__repr__", "__call__", "__getattribute__", "__get__"]),
    (.slot, ["__objclass__", "__name__"]),
    (.property, ["__doc__", "__qualname__", "__text_signature__"])]
  | .freeMethod => [
    (.maker, ["__new__"]),
    (.operator, ["__repr__", "__call__", "__get__", "__init__"]),
    (.slot, ["__func__", "__wrapped__"]),
    (.property, ["__isabstractmethod__", "__dict__"]),
    (.doc, ["__doc__"])]
  | .property => [
    (.operator, ["__repr__", "__getattribute__", "__get__", "__set__", "__delete__"]),
    (.slot, ["__objclass__", "__name__"]),
    (.property, ["__doc__", "__qualname__"])]
  | .slot => [
    (.operator, ["__repr__", "__getattribute__", "__get__", "__set__", "__delete__"]),
    (.method, ["__reduce__"]),
    (.slot, ["__objclass__", "__name__"]),
    (.property, ["__doc__", "__qualname__"])]
  | .boundOperator => [
    (.operator, ["__repr__", "__hash__", "__call__", "__getattribute__"] ++ comparisons),
    (.method, ["__reduce__"]),
    (.slot, ["__self__"]),
    (.property, ["__objclass__", "__name__", "__qualname__", "__doc__", "__text_signature__"])]
  | .boundMethod => [
    (.operator, ["__repr__", "__hash__", "__call__", "__getattribute__"] ++ comparisons),
    (.method, ["__reduce__"]),
    (.slot, ["__module__"]),
    (.property, ["__doc__", "__name__", "__qualname__", "__self__", "__text_signature__"])]

/-! ## Asking for a member -/

/-- The members that a kind has itself. -/
def ownMembers (k : ItemKind) : List Member :=
  k.own.flatMap fun (role, names) => names.map fun name => ⟨k, role, name.toList⟩

/-- The member of a name that a kind has itself. -/
def ownMember? (k : ItemKind) (name : List Char) : Option Member :=
  k.ownMembers.find? (·.name = name)

/-- The member of a name that a kind or one above it has. -/
def member? (k : ItemKind) (name : List Char) : Option Member :=
  k.line.findSome? (·.ownMember? name)

/-- A member that answers to a name has that name. -/
theorem name_of_member? {k : ItemKind} {name : List Char} {m : Member}
    (h : k.member? name = some m) : m.name = name := by
  obtain ⟨above, -, h⟩ := List.exists_of_findSome?_eq_some h
  unfold ownMember? at h
  simpa using List.find?_some h

end ItemKind

namespace MemberDoc

/-- What is written about making items, whatever their kind. -/
def maker : MemberDoc :=
  ⟨"__new__", some "($type, *args, **kwargs)", some
    "Create and return a new object.  See help(type) for accurate signature."⟩

/-- What is written about the members that a kind has itself, apart from operators. -/
def ofItemKind : ItemKind → List MemberDoc
  | .whole => ofWhole
  | .real => ofReal
  | .text => ofText
  | .tuple => ofTuple
  | .kind => ofKind
  | .any => ofAny
  | .applied => ofApplied
  | .dictionary => ofDictionary
  | .members => ofMembers
  | _ => []

end MemberDoc

namespace Member

/-- What is written about a member. -/
def doc? (m : Member) : Option MemberDoc :=
  match m.role with
  | .maker => some .maker
  | .operator => MemberDoc.operators.find? (·.name.toList = m.name)
  | _ => (MemberDoc.ofItemKind m.owner).find? (·.name.toList = m.name)

/-- A member, bound to an item of a kind, written out.  Where the item is kept differs from
run to run, so the place that is written says nothing. -/
def boundText (m : Member) (k : ItemKind) : List Char :=
  (match m.role with
    | .operator => "<method-wrapper '".toList ++ m.name ++ "' of ".toList
    | _ => "<built-in method ".toList ++ m.name ++ " of ".toList) ++
  k.fullName.toList ++ " object at 0x7f0000000000>".toList

/-- A member as it stands among the members of its kind, written out. -/
def text (m : Member) : List Char :=
  let ofKind (what : String) : List Char :=
    ("<" ++ what ++ " '").toList ++ m.name ++ ("' of '" ++ m.owner.fullName ++ "' objects>").toList
  match m.role with
  | .operator => ofKind "slot wrapper"
  | .method | .kindMethod => ofKind "method"
  | .property => ofKind "attribute"
  | .slot => ofKind "member"
  | .free => "<staticmethod(".toList ++ m.boundText .kind ++ ")>".toList
  | .maker => m.boundText .kind
  | .doc => (m.owner.doc?.map fun s => Text.quoted s.toList).getD "None".toList
  | .missing => "None".toList

end Member

/-- The members that a kind has itself, written out. -/
def ItemKind.membersText (k : ItemKind) : List Char :=
  '\x7b' :: ", ".toList.intercalate (k.ownMembers.map fun m =>
    Text.quoted m.name ++ ": ".toList ++ m.text) ++ ['\x7d']

end Template
end Criteria
