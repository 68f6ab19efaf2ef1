/-
# Events

What is worth a line in a log.  Only a skipped condition is a warning.  The line for it shows the
field in full, even if that is an integer with more digits than are written otherwise.
-/
import Criteria.Value.Written

namespace Criteria

inductive Event where
  /-- A query constructor was registered under a displayed name. -/
  | registered (display : String)
  /-- A store was emptied. -/
  | storeReset
  /-- A condition with an unknown operator was left out; the field is the caller's. -/
  | skipped (name field : Value)
  /-- A store of `total` constraints was compiled into so many clauses. -/
  | compiled (total must mustNot filter : Nat)

/-- How much attention an event asks for. -/
inductive Severity where
  | debug
  | warning
deriving DecidableEq, Repr

namespace Event

def severity : Event → Severity
  | .skipped _ _ => .warning
  | _ => .debug

/-- The line for an event. -/
def message : Event → String
  | .registered display => "Registered query constructor '" ++ display ++ "'"
  | .storeReset => "Condition store reset"
  | .skipped name field =>
    "Skipping condition with unknown operator '" ++ name.written ++ "' on field '" ++
      field.written ++ "'"
  | .compiled total must mustNot filter =>
    "Compiled " ++ total.repr ++ " constraints into " ++ (must + mustNot + filter).repr ++
      " clauses (must=" ++ must.repr ++ ", must_not=" ++ mustNot.repr ++ ", filter=" ++
      filter.repr ++ ")"

end Event

end Criteria
