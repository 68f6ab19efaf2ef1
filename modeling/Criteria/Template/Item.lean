/-
# What a field of a template names

The number that a template is filled with is an item, and so is every part of it that can be
named: its kind, the members of that, and so on.

* `Item.ofName` is what the name of a field stands for.
* `Item.attribute?` and `Item.at?` are the parts of an item.
* `Item.converted` is what a conversion makes of an item.
* `Item.shown` is how it is shown.
-/
import Criteria.Template.Access
import Criteria.Template.Member
import Criteria.Template.Shown

namespace Criteria
namespace Template

inductive Item where
  | number (n : Number)
  | text (s : List Char)
  | nothing
  | tuple (items : List Item)
  | kind (k : ItemKind)
  /-- A dictionary without entries. -/
  | dictionary
  /-- The members that a kind has itself, by name. -/
  | members (k : ItemKind)
  /-- A kind, applied to a parameter. -/
  | applied (k : ItemKind) (parameter : Item)
  /-- A member on its own. -/
  | member (m : Member)
  /-- A member together with the item that it is for. -/
  | bound (m : Member) (self : Item)

namespace Item

/-- The kind of an item. -/
def kindOf : Item → ItemKind
  | .number (.bool _) => .truth
  | .number (.int _) => .whole
  | .number (.real _) => .real
  | .text _ => .text
  | .nothing => .nothing
  | .tuple _ => .tuple
  | .kind _ => .kind
  | .dictionary => .dictionary
  | .members _ => .members
  | .applied _ _ => .applied
  | .member m =>
    match m.role with
    | .operator => .operator
    | .kindMethod => .kindMethod
    | .free => .freeMethod
    | .property => .property
    | .slot => .slot
    | _ => .method
  | .bound m _ => if m.role = .operator then .boundOperator else .boundMethod

/-! ## Properties -/

/-- A text as an item, or nothing in its place. -/
def ofText? : Option String → Item
  | some s => .text s.toList
  | none => .nothing

/-- A count as an item. -/
def ofNat (n : Nat) : Item := .number (.int n)

/-- The properties of a whole number. -/
def wholeProperty? (n : Int) : String → Option Item
  | "real" | "numerator" => some (.number (.int n))
  | "imag" => some (ofNat 0)
  | "denominator" => some (ofNat 1)
  | _ => none

/-- The properties of a double. -/
def realProperty? (x : Binary64) : String → Option Item
  | "real" => some (.number (.real x))
  | "imag" => some (.number (.real (.finite false 0)))
  | _ => none

/-- What is written about a kind.  Where that differs from item to item, it is a member. -/
def docOf (k : ItemKind) : Item :=
  match k.ownMember? "__doc__".toList with
  | some m => if m.role = .property ∧ k ≠ .kind then .member m else ofText? k.doc?
  | none => ofText? k.doc?

/-- The properties of a kind. -/
def kindProperty? (k : ItemKind) : String → Option Item
  | "__name__" | "__qualname__" => some (ofText? k.label)
  | "__module__" => some (ofText? k.home)
  | "__doc__" => some (docOf k)
  | "__text_signature__" => some (ofText? k.signature?)
  | "__base__" => some ((k.above?.map Item.kind).getD .nothing)
  | "__bases__" => some (.tuple (k.above?.map Item.kind).toList)
  | "__mro__" => some (.tuple (k.line.map .kind))
  | "__dict__" => some (.members k)
  | "__basicsize__" => some (ofNat k.storage.size)
  | "__itemsize__" => some (ofNat k.storage.partSize)
  | "__flags__" => some (ofNat k.storage.flags)
  | "__dictoffset__" => some (ofNat k.storage.dictionaryAt)
  | "__weakrefoffset__" => some (ofNat k.storage.referencesAt)
  | _ => none

/-- The properties of a kind that is applied to a parameter. -/
def appliedProperty? (k : ItemKind) (parameter : Item) : String → Option Item
  | "__origin__" => some (.kind k)
  | "__args__" => some (.tuple [parameter])
  | "__parameters__" => some (.tuple [])
  | "__unpacked__" => some (.number (.bool false))
  | "__typing_unpacked_tuple_args__" => some .nothing
  | _ => none

/-- The name of a member behind that of a kind. -/
def nameWithin (k : ItemKind) (m : Member) : Item := .text (k.label.toList ++ '.' :: m.name)

/-- The properties of a member. -/
def memberProperty? (m : Member) : String → Option Item
  | "__name__" => some (.text m.name)
  | "__qualname__" => some (nameWithin m.owner m)
  | "__objclass__" => some (.kind m.owner)
  | "__doc__" => some (ofText? (m.doc?.bind (·.text)))
  | "__text_signature__" => some (ofText? (m.doc?.bind (·.signature)))
  | "__func__" | "__wrapped__" => some (.bound m (.kind m.owner))
  | "__isabstractmethod__" => some (.number (.bool false))
  | "__dict__" => some .dictionary
  | _ => none

/-- The properties of a member together with the item that it is for. -/
def boundProperty? (m : Member) (self : Item) : String → Option Item
  | "__name__" => some (.text m.name)
  | "__qualname__" =>
    some (nameWithin (if m.role = .operator then m.owner
      else match self with
        | .kind k => k
        | self => self.kindOf) m)
  | "__self__" => some (if m.role = .free then .nothing else self)
  | "__objclass__" => some (.kind m.owner)
  | "__module__" => some .nothing
  | "__doc__" => some (ofText? (m.doc?.bind (·.text)))
  | "__text_signature__" => some (ofText? (m.doc?.bind (·.signature)))
  | _ => none

/-- The property of an item that has a name. -/
def property? (i : Item) (name : List Char) : Option Item :=
  let name := String.ofList name
  if name = "__class__" then some (.kind i.kindOf)
  else match i with
    | .number (.bool b) => wholeProperty? (if b then 1 else 0) name
    | .number (.int n) => wholeProperty? n name
    | .number (.real x) => realProperty? x name
    | .kind k => kindProperty? k name
    | .applied k parameter => appliedProperty? k parameter name
    | .member m => memberProperty? m name
    | .bound m self => boundProperty? m self name
    | .text _ | .nothing | .tuple _ | .dictionary | .members _ => none

/-! ## Attributes -/

/-- A member as it stands among the members of its kind. -/
def ofMember (m : Member) : Item :=
  match m.role with
  | .maker => .bound m (.kind m.owner)
  | .doc => ofText? m.owner.doc?
  | .missing => .nothing
  | _ => .member m

/-- What a member of the kind of an item is for the item. -/
def bind (i : Item) (m : Member) : Option Item :=
  match m.role with
  | .operator | .method => some (.bound m i)
  | .kindMethod => some (.bound m (.kind i.kindOf))
  | .free => some (.bound m (.kind m.owner))
  | .property | .slot => i.property? m.name
  | .maker | .doc | .missing => some (ofMember m)

/-- The attribute of a kind that has a name.  What is read off or computed from a kind goes
before the members of the kind, and these go before the members of all kinds. -/
def kindAttribute? (k : ItemKind) (name : List Char) : Option Item :=
  let ofKinds := ItemKind.kind.member? name
  if ofKinds.any fun m => m.role = .property ∨ m.role = .slot then property? (.kind k) name
  else match k.member? name with
    | some m => some (match m.role with
      | .kindMethod => .bound m (.kind k)
      | .free => .bound m (.kind m.owner)
      | _ => ofMember m)
    | none => ofKinds.bind (bind (.kind k))

/-- The attributes of an applied kind that are not those of the kind. -/
def appliedNames : List String :=
  ["__class__", "__origin__", "__args__", "__unpacked__", "__parameters__",
    "__typing_unpacked_tuple_args__", "__mro_entries__", "__reduce_ex__", "__reduce__",
    "__copy__", "__deepcopy__"]

/-- The attribute of an item that has a name. -/
def attribute? (i : Item) (name : List Char) : Option Item :=
  let own := (i.kindOf.member? name).bind i.bind
  match i with
  | .kind k => kindAttribute? k name
  | .applied k _ =>
    if appliedNames.contains (String.ofList name) then own else kindAttribute? k name
  | _ => own

/-! ## Indexes -/

/-- Whether a kind can be applied to a parameter. -/
def isApplicable (k : ItemKind) : Bool :=
  k = .kind || (k.member? "__class_getitem__".toList).isSome

/-- A key as an item. -/
def ofKey : Key → Item
  | .place n => ofNat n
  | .name s => .text s

/-- The part of an item at a key. -/
def at? : Item → Key → Except Fault Item
  | .text s, .place n =>
    match s[n]? with
    | some c => .ok (.text [c])
    | none => .error .noSuchIndex
  | .tuple items, .place n =>
    match items[n]? with
    | some i => .ok i
    | none => .error .noSuchIndex
  | .members k, .name s =>
    match k.ownMember? s with
    | some m => .ok (ofMember m)
    | none => .error .noSuchKey
  | .members _, .place _ | .dictionary, _ => .error .noSuchKey
  | .kind k, key => if isApplicable k then .ok (.applied k (ofKey key)) else .error .wrongType
  | _, _ => .error .wrongType

/-! ## Names -/

/-- Go on from an item to a part of it. -/
def follow (i : Item) : List Access → Except Fault Item
  | [] => .ok i
  | .broken e :: _ => .error (.template e)
  | .attribute name :: ways =>
    match i.attribute? name with
    | some i => i.follow ways
    | none => .error .noSuchAttribute
  | .index key :: ways => do
    let part ← i.at? (← (Key.ofText key).mapError .template)
    part.follow ways

/-- What the name of a field stands for in a template that is filled with one number. -/
def ofName (n : Number) (numbering : Numbering) (name : List Char) :
    Except Fault (Item × Numbering) := do
  let isFirst (c : Char) : Bool := c != '.' && c != '['
  match ← (numbering.place (name.takeWhile isFirst)).mapError .template with
  | (some 0, numbering) =>
    return (← (Item.number n).follow (Access.ofText (name.dropWhile isFirst)), numbering)
  | (some _, _) => .error .noSuchIndex
  | (none, _) => .error .noSuchKey

/-! ## Shown items -/

mutual

/-- An item as a literal: a text stands between quotes. -/
def literal : Item → List Char
  | .number n => n.text.toList
  | .text s => Text.quoted s
  | .nothing => "None".toList
  | .tuple [i] => '(' :: i.literal ++ ",)".toList
  | .tuple items => '(' :: ", ".toList.intercalate (literals items) ++ [')']
  | .kind k => k.written
  | .dictionary => ['\x7b', '\x7d']
  | .members k => "mappingproxy(".toList ++ k.membersText ++ [')']
  | .applied k parameter => k.label.toList ++ '[' :: parameter.literal ++ [']']
  | .member m => m.text
  | .bound m self => m.boundText self.kindOf

def literals : List Item → List (List Char)
  | [] => []
  | i :: is => i.literal :: literals is

end

/-- An item, written plainly. -/
def written : Item → List Char
  | .text s => s
  | .members k => k.membersText
  | i => i.literal

/-- What is made from the written form of an item, if that can be written.  Only a number can
be too long for that; the numbers within other items are small. -/
def whenWritable {α : Type} (i : Item) (a : α) : Except Fault α :=
  match i with
  | .number n => n.whenWritable a
  | _ => .ok a

/-- What a conversion makes of an item: a text, plain or as a literal, perhaps with all but
ASCII escaped. -/
def converted (i : Item) : Option Char → Except Fault Item
  | none => .ok i
  | some 's' => i.whenWritable (.text i.written)
  | some 'r' => i.whenWritable (.text i.literal)
  | some 'a' => i.whenWritable (.text (Text.asciiOnly i.literal))
  | some c => .error (.template (.unknownConversion c))

/-- An item as a specification asks for it.  An empty one leaves it plain. -/
def shown (i : Item) (spec : List Char) : Except Fault (List Char) :=
  if spec.isEmpty then i.whenWritable i.written
  else
    let kind := i.kindOf.label
    let read (align : Alignment) (code : Option Char) : Except Fault Spec :=
      (Spec.ofText ⟨kind, align, code⟩ spec).mapError .template
    match i with
    | .number (.real x) => do
      (← read .right none).within fun spec => (spec.real x).mapError .template
    | .number (.int n) => do (← read .right (some 'd')).within (·.integer kind n)
    | .number (.bool b) => do
      (← read .right (some 'd')).within (·.integer kind (if b then 1 else 0))
    | .text s => do
      (← read .left (some 's')).within fun spec => (spec.text s).mapError .template
    | _ => .error .wrongType

end Item
end Template
end Criteria
