/-
# Registries of query constructors

A registry knows query constructors by name.  Names are looked up by their keys, so without
regard to letter case.  Registering under a key that is there already replaces the
constructor and the displayed name and keeps the place in the list of names.
-/
import Criteria.Name
import Criteria.Outcome
import Criteria.Registry.Constructor
import Criteria.Value.Keyed

namespace Criteria

/-- A constructor with the name under which it is displayed. -/
structure Registration where
  display : String
  constructor : Constructor

/-- The registrations, by the keys of their names. -/
structure Registry where
  entries : Table String Registration

/-- What is offered for registration: a constructor, or a value that is none. -/
inductive Candidate where
  | constructor (c : Constructor)
  | value (v : Value)

namespace Registry

/-- The registry without constructors. -/
def empty : Registry := ⟨[]⟩

/-- The registry with a constructor under a displayed name. -/
def insert (r : Registry) (key display : String) (c : Constructor) : Registry :=
  ⟨r.entries.put (· == ·) key ⟨display, c⟩⟩

/-- The registry of the standard constructors. -/
def standard : Registry :=
  Standard.all.foldl (fun r s => r.insert (Name.key s.display) s.display (.standard s)) empty

/-- Register a constructor.  An empty name is refused first, then what is no constructor. -/
def register (r : Registry) (name : Value) (candidate : Candidate) : Outcome Registry :=
  match Name.ofValue name, Name.keyOfValue name with
  | .ok display, .ok key =>
    if display = "" then .silent (.error .emptyName)
    else match candidate with
      | .constructor c => ⟨[.registered display], .ok (r.insert key display c)⟩
      | .value v => .silent (.error (.notAConstructor v))
  | .error e, _ | _, .error e => .silent (.error e)

/-- The registry after an attempt to register; a refused one leaves it as it was. -/
def attempt (r : Registry) (name : Value) (candidate : Candidate) : Registry :=
  match (r.register name candidate).result with
  | .ok r' => r'
  | .error _ => r

/-- Register constructors one after the other. -/
def registerAll (r : Registry) : List (Value × Candidate) → Outcome Registry
  | [] => .silent (.ok r)
  | (name, candidate) :: rest => (r.register name candidate).andThen (registerAll · rest)

/-- A registry with the given constructors, after the standard ones if these are wanted. -/
def ofConstructors (withStandard : Bool) (constructors : Table Value Candidate) :
    Outcome Registry :=
  (if withStandard then standard else empty).registerAll constructors

/-- The registration under a key. -/
def get? (r : Registry) (key : String) : Option Registration :=
  Table.get? (· == ·) key r.entries

/-- The constructor of a name, if there is one. -/
def find (r : Registry) (name : Value) : Except Fault (Option Constructor) :=
  (Name.keyOfValue name).map fun key => (r.get? key).map (·.constructor)

/-- The query of a name, if the name is known and its constructor does not decline. -/
def create (r : Registry) (name field arguments : Value) : Except Fault (Option Query) := do
  match ← r.find name with
  | some c => c.build field arguments
  | none => return none

/-- The displayed names, in the order in which their keys were first registered. -/
def names (r : Registry) : List String := r.entries.map (·.2.display)

/-- Whether a text is a known name; no other value is. -/
def contains (r : Registry) (name : Value) : Bool :=
  match name.text? with
  | some s => (r.get? (Name.key s)).isSome
  | none => false

end Registry
end Criteria
