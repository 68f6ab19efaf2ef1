/-
# Kinds of items

What a field of a template names is of some kind, and kinds are items as well.  Above each
kind there is a more general one, up to the kind of any item.

* `ItemKind.line` is a kind with those above it.
* `ItemKind.label` is its name, and `ItemKind.fullName` its name with that of its home.
* `ItemKind.doc?` is what is written about it, and `ItemKind.storage` how its items are kept.
-/
import Criteria.Text.Quoted

namespace Criteria
namespace Template

/-- What an item can be. -/
inductive ItemKind where
  | whole
  | real
  | truth
  | text
  | nothing
  | tuple
  /-- The kind of the kinds. -/
  | kind
  /-- The kind above all others. -/
  | any
  /-- A kind that is applied to a parameter. -/
  | applied
  | dictionary
  /-- The members of a kind. -/
  | members
  | operator
  | method
  | kindMethod
  | freeMethod
  | property
  | slot
  /-- An operator together with the item that it is for. -/
  | boundOperator
  /-- A method together with the item that it is for. -/
  | boundMethod
deriving DecidableEq

namespace ItemKind

/-- The kind right above a kind. -/
def above? : ItemKind → Option ItemKind
  | .any => none
  | .truth => some .whole
  | _ => some .any

/-- A kind and the kinds above it, the nearest first. -/
def line : ItemKind → List ItemKind
  | .any => [.any]
  | .truth => [.truth, .whole, .any]
  | k => [k, .any]

/-- The line of a kind is the kind and the line above it. -/
theorem line_eq (k : ItemKind) : k.line = k :: (k.above?.map line).getD [] := by
  cases k <;> rfl

def label : ItemKind → String
  | .whole => "int"
  | .real => "float"
  | .truth => "bool"
  | .text => "str"
  | .nothing => "NoneType"
  | .tuple => "tuple"
  | .kind => "type"
  | .any => "object"
  | .applied => "GenericAlias"
  | .dictionary => "dict"
  | .members => "mappingproxy"
  | .operator => "wrapper_descriptor"
  | .method => "method_descriptor"
  | .kindMethod => "classmethod_descriptor"
  | .freeMethod => "staticmethod"
  | .property => "getset_descriptor"
  | .slot => "member_descriptor"
  | .boundOperator => "method-wrapper"
  | .boundMethod => "builtin_function_or_method"

/-- Where a kind is at home. -/
def home : ItemKind → String
  | .applied => "types"
  | _ => "builtins"

/-- The name of a kind outside its home; those of one home are known everywhere. -/
def fullName (k : ItemKind) : String :=
  match k with
  | .applied => k.home ++ "." ++ k.label
  | k => k.label

/-- A kind, written out. -/
def written (k : ItemKind) : List Char := ("<class '" ++ k.fullName ++ "'>").toList

/-! ## What is known of a kind -/

/-- How items of a kind can be made, if that is written down apart. -/
def signature? : ItemKind → Option String
  | .real => some "(x=0, /)"
  | .tuple => some "(iterable=(), /)"
  | .any => some "()"
  | _ => none

/-- What is written about a kind. -/
def doc? : ItemKind → Option String
  | .whole => some (
    "int([x]) -> integer\nint(x, base=10) -> integer\n\n" ++
    "Convert a number or string to an integer, or return 0 if no arguments\n" ++
    "are given.  If x is a number, return x.__int__().  For floating point\n" ++
    "numbers, this truncates towards zero.\n\n" ++
    "If x is not a number or if base is given, then x must be a string,\n" ++
    "bytes, or bytearray instance representing an integer literal in the\n" ++
    "given base.  The literal can be preceded by '+' or '-' and be surrounded\n" ++
    "by whitespace.  The base defaults to 10.  Valid bases are 0 and 2-36.\n" ++
    "Base 0 means to interpret the base from the string as an integer literal.\n" ++
    ">>> int('0b100', base=0)\n4")
  | .real => some "Convert a string or number to a floating point number, if possible."
  | .truth => some (
    "bool(x) -> bool\n\nReturns True when the argument x is true, False otherwise.\n" ++
    "The builtins True and False are the only two instances of the class bool.\n" ++
    "The class bool is a subclass of the class int, and cannot be subclassed.")
  | .text => some (
    "str(object='') -> str\nstr(bytes_or_buffer[, encoding[, errors]]) -> str\n\n" ++
    "Create a new string object from the given object. If encoding or\n" ++
    "errors is specified, then the object must expose a data buffer\n" ++
    "that will be decoded using the given encoding and error handler.\n" ++
    "Otherwise, returns the result of object.__str__() (if defined)\n" ++
    "or repr(object).\nencoding defaults to sys.getdefaultencoding().\n" ++
    "errors defaults to 'strict'.")
  | .tuple => some (
    "Built-in immutable sequence.\n\n" ++
    "If no argument is given, the constructor returns an empty tuple.\n" ++
    "If iterable is specified the tuple is initialized from iterable's items.\n\n" ++
    "If the argument is a tuple, the return value is the same object.")
  | .kind => some (
    "type(object) -> the object's type\ntype(name, bases, dict, **kwds) -> a new type")
  | .any => some (
    "The base class of the class hierarchy.\n\n" ++
    "When called, it accepts no arguments and returns a new featureless\n" ++
    "instance that has no instance attributes and cannot be given any.\n")
  | .applied => some (
    "Represent a PEP 585 generic type\n\n" ++
    "E.g. for t = list[int], t.__origin__ is list and t.__args__ is (int,).")
  | .dictionary => some (
    "dict() -> new empty dictionary\n" ++
    "dict(mapping) -> new dictionary initialized from a mapping object's\n" ++
    "    (key, value) pairs\ndict(iterable) -> new dictionary initialized as if via:\n" ++
    "    d = \x7b\x7d\n    for k, v in iterable:\n        d[k] = v\n" ++
    "dict(**kwargs) -> new dictionary initialized with the name=value pairs\n" ++
    "    in the keyword argument list.  For example:  dict(one=1, two=2)")
  | .freeMethod => some (
    "staticmethod(function) -> method\n\nConvert a function to be a static method.\n\n" ++
    "A static method does not receive an implicit first argument.\n" ++
    "To declare a static method, use this idiom:\n\n     class C:\n         @staticmethod\n" ++
    "         def f(arg1, arg2, argN):\n             ...\n\n" ++
    "It can be called either on the class (e.g. C.f()) or on an instance\n" ++
    "(e.g. C().f()). Both the class and the instance are ignored, and\n" ++
    "neither is passed implicitly as the first argument to the method.\n\n" ++
    "Static methods in Python are similar to those found in Java or C++.\n" ++
    "For a more advanced concept, see the classmethod builtin.")
  | _ => none

/-- How the items of a kind are kept. -/
structure Storage where
  /-- The bytes of an item. -/
  size : Nat
  /-- The bytes of each of its parts, if their number differs from item to item. -/
  partSize : Nat
  /-- What can be done with the kind, as bits. -/
  flags : Nat
  /-- Where an item has a dictionary of its own. -/
  dictionaryAt : Nat
  /-- Where an item has a list of what refers to it. -/
  referencesAt : Nat

def storage : ItemKind → Storage
  | .whole => ⟨24, 4, 0x1481500, 0, 0⟩
  | .real => ⟨24, 0, 0x481500, 0, 0⟩
  | .truth => ⟨32, 4, 0x1481100, 0, 0⟩
  | .text => ⟨80, 0, 0x10481500, 0, 0⟩
  | .nothing => ⟨16, 0, 0x81100, 0, 0⟩
  | .tuple => ⟨24, 8, 0x4485520, 0, 0⟩
  | .kind => ⟨904, 40, 0x80085d00, 264, 368⟩
  | .any => ⟨16, 0, 0x81500, 0, 0⟩
  | .applied => ⟨64, 0, 0x85d00, 0, 40⟩
  | .dictionary => ⟨48, 0, 0x20485540, 0, 0⟩
  | .members => ⟨24, 0, 0x85140, 0, 0⟩
  | .operator => ⟨56, 0, 0xa5180, 0, 0⟩
  | .method => ⟨56, 0, 0xa5980, 0, 0⟩
  | .kindMethod => ⟨56, 0, 0x85180, 0, 0⟩
  | .freeMethod => ⟨32, 0, 0x85500, 24, 0⟩
  | .property | .slot => ⟨48, 0, 0x85180, 0, 0⟩
  | .boundOperator => ⟨32, 0, 0x85180, 0, 0⟩
  | .boundMethod => ⟨56, 0, 0x85980, 0, 40⟩

end ItemKind
end Template
end Criteria
