/-
# Field maps

A field map gives fields other names.  A field that it does not mention keeps its name, and
the new name is not looked up again.
-/
import Criteria.Arguments
import Criteria.Value.Keyed

namespace Criteria

/-- The new names of some fields. -/
structure FieldMap where
  names : Table Value Value

namespace FieldMap

/-- The map that renames nothing. -/
def empty : FieldMap := ⟨[]⟩

/-- A field and its new name from arguments; they may also bring a name for display. -/
def entryOfArguments (args : Arguments) : Except Fault (Value × Value) := do
  args.only ["field", "es_field", "display"]
  return (← args.required "field", ← args.required "es_field")

/-- The map with the names from some arguments, of which the last for a field counts.  Whether
all fields can be mentioned in a map is looked at last. -/
def ofArguments (entries : List (Except Fault Arguments)) : Except Fault FieldMap := do
  let names ← entries.mapM (· >>= entryOfArguments)
  return ⟨← Table.ofValues (names.map .ok)⟩

/-- The name of a field. -/
def find (m : FieldMap) (field : Value) : Except Fault Value :=
  if field.isKey then .ok ((Table.get? Value.same field m.names).getD field)
  else .error .wrongType

/-- The names of the fields in a sequence. -/
def findAll (m : FieldMap) (fields : Value) : Except Fault (List Value) :=
  match fields.elements? with
  | some fields => fields.mapM m.find
  | none => .error .wrongType

theorem find_empty {field : Value} (h : field.isKey) : empty.find field = .ok field := by
  simp [find, h, empty, Table.get?]

end FieldMap
end Criteria
