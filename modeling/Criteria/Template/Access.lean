/-
# The names of fields

A field of a template names the number that the template is filled with, by its place or by
none, and then perhaps a part of it: attributes behind points and indexes in brackets.

* `Numbering.place` is the place of the number that a field means.
* `Access.ofText` reads the ways to a part.
-/
import Criteria.Template.Spec

namespace Criteria
namespace Template

/-- The number that a text stands for, if it is one.  Digits that are too many are refused
even where something else follows them. -/
def placeOf (s : List Char) : Except TemplateFault (Option Nat) := do
  let (n, rest) ← Spec.readNumber s
  return if rest.isEmpty then n else none

/-! ## The number that is meant -/

/-- How the fields of a template say which number they mean. -/
inductive Numbering where
  /-- No field has said it yet. -/
  | undecided
  /-- By their order; the next one means the number at `next`. -/
  | automatic (next : Nat)
  /-- By the place of the number. -/
  | byPlace

/-- The place of the number that a field means by the first part of its name, and how the
fields say it from there on.  A name that is no number means nothing that is there. -/
def Numbering.place (numbering : Numbering) (first : List Char) :
    Except TemplateFault (Option Nat × Numbering) := do
  match ← placeOf first, numbering with
  | some _, .automatic _ => .error .automaticThenNumbered
  | some n, _ => return (some n, .byPlace)
  | none, numbering =>
    if !first.isEmpty then return (none, numbering)
    else match numbering with
      | .undecided => return (some 0, .automatic 1)
      | .automatic next => return (some next, .automatic (next + 1))
      | .byPlace => .error .numberedThenAutomatic

/-! ## The ways to a part -/

/-- What stands in brackets: a place, or anything else as it is. -/
inductive Key where
  | place (n : Nat)
  | name (s : List Char)

/-- The key that a text gives. -/
def Key.ofText (s : List Char) : Except TemplateFault Key := do
  return match ← placeOf s with
    | some n => .place n
    | none => .name s

/-- A way from an item to a part of it. -/
inductive Access where
  | attribute (name : List Char)
  | index (key : List Char)
  | broken (e : TemplateFault)

namespace Access

/-- A way by a name, which was read backwards and cannot be empty. -/
def named (way : List Char → Access) (read : List Char) : Access :=
  if read.isEmpty then .broken .emptyAttribute else way read.reverse

mutual

/-- The ways in the name of a field, behind its first part. -/
def ofText : List Char → List Access
  | [] => []
  | '.' :: s => ofAttribute [] s
  | '[' :: s => ofIndex [] s
  | _ => [.broken .strayAfterIndex]

/-- The ways from within an attribute. -/
def ofAttribute (read : List Char) : List Char → List Access
  | [] => [named .attribute read]
  | '.' :: s => named .attribute read :: ofAttribute [] s
  | '[' :: s => named .attribute read :: ofIndex [] s
  | c :: s => ofAttribute (c :: read) s

/-- The ways from within an index. -/
def ofIndex (read : List Char) : List Char → List Access
  | [] => [.broken .unclosedIndex]
  | ']' :: s => named .index read :: ofText s
  | c :: s => ofIndex (c :: read) s

end

end Access
end Template
end Criteria
