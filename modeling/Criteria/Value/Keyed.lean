/-
# Tables with values as keys

Not every value can be a key, so a table of values can fail to be made.
-/
import Criteria.Fault

namespace Criteria

namespace Table

variable {α : Type}

/-- Put an entry under a value, if that can be a key. -/
def putValue (t : Table Value α) (k : Value) (a : α) : Except Fault (Table Value α) :=
  if k.isKey then .ok (t.put Value.same k a) else .error .wrongType

/-- The table of some entries under values, of which the last under a key counts.  They are
put in one after the other, so the first fault is that of the first entry with one, be it in
the entry or in its key. -/
def ofValues : List (Except Fault (Value × α)) → Except Fault (Table Value α) :=
  List.foldlM (fun t e => do let (k, a) ← e; t.putValue k a) []

end Table

end Criteria
