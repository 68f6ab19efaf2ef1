/-
# Names of query types

A query type is displayed with its first character in upper case and looked up without
regard to letter case: its key is the case folding of the displayed name.
-/
import Criteria.Fault
import Criteria.Text.Casefold
import Criteria.Text.Uppercase

namespace Criteria
namespace Name

/-- The displayed form of a name: the first character, which may become several, is in
upper case and the others are left alone. -/
def displayChars : List Char → List Char
  | [] => []
  | c :: s => Text.uppercase.char c ++ s

/-- The key of a name. -/
def keyChars (s : List Char) : List Char := Text.casefold.text (displayChars s)

/-- The displayed form of a name. -/
def display (name : String) : String := String.ofList (displayChars name.toList)

/-- The key of a name: names with equal keys name the same query type. -/
def key (name : String) : String := String.ofList (keyChars name.toList)

/-- The first element of a sequence as a name's first character: only a text can be put in
upper case, and then it does not join to the rest of the sequence. -/
def headFault : Value → Fault
  | .str _ | .operator _ | .bytes _ => .wrongType
  | _ => .noSuchAttribute

/-- The displayed form of any value used as a name.  What is empty has the empty name, and
a value that is no text has none. -/
def ofValue (v : Value) : Except Fault String :=
  if !v.truthy then .ok ""
  else match v with
    | .str s => .ok (display s)
    | .operator o => .ok (display o.word)
    | .list (x :: _) | .tuple (x :: _) => .error (headFault x)
    | .dict entries =>
      match Table.get? Value.same (.int 0) entries with
      | some x => .error (headFault x)
      | none => .error .noSuchKey
    | .bytes _ => .error .noSuchAttribute
    | _ => .error .wrongType

/-- The key of any value used as a name. -/
def keyOfValue (v : Value) : Except Fault String :=
  (ofValue v).map fun shown => String.ofList (Text.casefold.text shown.toList)

theorem ofValue_str (s : String) : ofValue (.str s) = .ok (display s) := by
  by_cases h : s.isEmpty
  · have : s = "" := by simpa using h
    subst this
    rfl
  · simp [ofValue, Value.truthy, h]

theorem keyOfValue_str (s : String) : keyOfValue (.str s) = .ok (key s) := by
  simp [keyOfValue, ofValue_str, Except.map, display, key, keyChars]

end Name
end Criteria
