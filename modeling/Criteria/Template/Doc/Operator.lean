/-
# What is written about operators

An operator is described alike wherever it occurs.
-/
import Criteria.Template.Doc.Basic

namespace Criteria
namespace Template
namespace MemberDoc

/-- The operators. -/
def operators : List MemberDoc := [
  ofSelf "__repr__" "Return repr(self).",
  ofSelf "__hash__" "Return hash(self).",
  ⟨"__getattribute__", some "($self, name, /)", some "Return getattr(self, name)."⟩,
  ofSelfAnd "__lt__" "Return self<value.",
  ofSelfAnd "__le__" "Return self<=value.",
  ofSelfAnd "__eq__" "Return self==value.",
  ofSelfAnd "__ne__" "Return self!=value.",
  ofSelfAnd "__gt__" "Return self>value.",
  ofSelfAnd "__ge__" "Return self>=value.",
  ofSelfAnd "__add__" "Return self+value.",
  ofSelfAnd "__radd__" "Return value+self.",
  ofSelfAnd "__sub__" "Return self-value.",
  ofSelfAnd "__rsub__" "Return value-self.",
  ofSelfAnd "__mul__" "Return self*value.",
  ofSelfAnd "__rmul__" "Return value*self.",
  ofSelfAnd "__mod__" "Return self%value.",
  ofSelfAnd "__rmod__" "Return value%self.",
  ofSelfAnd "__divmod__" "Return divmod(self, value).",
  ofSelfAnd "__rdivmod__" "Return divmod(value, self).",
  ⟨"__pow__", some "($self, value, mod=None, /)", some "Return pow(self, value, mod)."⟩,
  ⟨"__rpow__", some "($self, value, mod=None, /)", some "Return pow(value, self, mod)."⟩,
  ofSelf "__neg__" "-self",
  ofSelf "__pos__" "+self",
  ofSelf "__abs__" "abs(self)",
  ofSelf "__bool__" "True if self else False",
  ofSelf "__invert__" "~self",
  ofSelfAnd "__lshift__" "Return self<<value.",
  ofSelfAnd "__rlshift__" "Return value<<self.",
  ofSelfAnd "__rshift__" "Return self>>value.",
  ofSelfAnd "__rrshift__" "Return value>>self.",
  ofSelfAnd "__and__" "Return self&value.",
  ofSelfAnd "__rand__" "Return value&self.",
  ofSelfAnd "__xor__" "Return self^value.",
  ofSelfAnd "__rxor__" "Return value^self.",
  ofSelfAnd "__or__" "Return self|value.",
  ofSelfAnd "__ror__" "Return value|self.",
  ofSelf "__int__" "int(self)",
  ofSelf "__float__" "float(self)",
  ofSelfAnd "__floordiv__" "Return self//value.",
  ofSelfAnd "__rfloordiv__" "Return value//self.",
  ofSelfAnd "__truediv__" "Return self/value.",
  ofSelfAnd "__rtruediv__" "Return value/self.",
  ofSelf "__index__" (
    "Return self converted to an integer, if self is suitable for use as an index into a " ++
    "list."),
  ofSelf "__str__" "Return str(self).",
  ofSelf "__iter__" "Implement iter(self).",
  ofSelf "__len__" "Return len(self).",
  ⟨"__getitem__", some "($self, key, /)", some "Return self[key]."⟩,
  ⟨"__contains__", some "($self, key, /)", some "Return key in self."⟩,
  ⟨"__call__", some "($self, /, *args, **kwargs)", some "Call self as a function."⟩,
  ⟨"__setattr__", some "($self, name, value, /)", some "Implement setattr(self, name, value)."⟩,
  ⟨"__delattr__", some "($self, name, /)", some "Implement delattr(self, name)."⟩,
  ⟨"__init__", some "($self, /, *args, **kwargs)", some (
    "Initialize self.  See help(type(self)) for accurate signature.")⟩,
  ofSelfAnd "__ior__" "Return self|=value.",
  ⟨"__setitem__", some "($self, key, value, /)", some "Set self[key] to value."⟩,
  ⟨"__delitem__", some "($self, key, /)", some "Delete self[key]."⟩,
  ⟨"__get__", some "($self, instance, owner=None, /)", some (
    "Return an attribute of instance, which is of type owner.")⟩,
  ⟨"__set__", some "($self, instance, value, /)", some "Set an attribute of instance to value."⟩,
  ⟨"__delete__", some "($self, instance, /)", some "Delete an attribute of instance."⟩]

end MemberDoc
end Template
end Criteria
