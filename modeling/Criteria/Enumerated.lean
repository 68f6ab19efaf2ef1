/-
# Members of enumerations by value

Each member of an enumeration has a value, and asking for a value that none has is a
fault.
-/
import Criteria.Fault

namespace Criteria

/-- The member of an enumeration with a given value. -/
def Enumeration.member {α : Type} (e : Enumeration) (members : List α) (valueOf : α → String)
    (v : Value) : Except Fault α :=
  match v.text?.bind fun s => members.find? fun m => valueOf m = s with
  | some m => .ok m
  | none => .error (.notAMember e v)

/-- The unit of distance with a given symbol. -/
def DistanceUnit.ofValue : Value → Except Fault DistanceUnit
  | .unit u => .ok u
  | v => Enumeration.distanceUnit.member all symbol v

/-- The default operator with a given word. -/
def DefaultOperator.ofValue (v : Value) : Except Fault DefaultOperator :=
  Enumeration.defaultOperator.member all word v

end Criteria
