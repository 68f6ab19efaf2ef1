/-
# Values

What a condition compares with, what a query carries and what a caller passes in are
values: numbers, texts, bytes, sequences, dictionaries and a few values of the domain.  A
dictionary is an ordered list of pairs in which no key stands twice.
-/
import Criteria.DefaultOperator
import Criteria.Geo.Point
import Criteria.Table

namespace Criteria

inductive Value where
  | null
  | num (n : Number)
  | str (s : String)
  | bytes (bs : List UInt8)
  | list (xs : List Value)
  /-- A sequence that can be a key if its elements can. -/
  | tuple (xs : List Value)
  | dict (entries : List (Value × Value))
  | point (p : Point)
  | unit (u : DistanceUnit)
  | operator (o : DefaultOperator)

namespace Value

instance : Inhabited Value := ⟨.null⟩

def bool (b : Bool) : Value := .num (.bool b)
def int (n : Int) : Value := .num (.int n)

/-- Whether a value counts as true: all do except nothing, zero and what is empty. -/
def truthy : Value → Bool
  | .null => false
  | .num n => !n.isZero
  | .str s => !s.isEmpty
  | .bytes bs => !bs.isEmpty
  | .list xs => !xs.isEmpty
  | .tuple xs => !xs.isEmpty
  | .dict entries => !entries.isEmpty
  | .point _ | .unit _ | .operator _ => true

/-- The value as a text; a default operator counts as its word. -/
def text? : Value → Option String
  | .str s => some s
  | .operator o => some o.word
  | _ => none

mutual

/-- Whether a value can be a key: lists and dictionaries cannot, nor tuples that hold one. -/
def isKey : Value → Bool
  | .list _ | .dict _ => false
  | .tuple xs => allKeys xs
  | _ => true

def allKeys : List Value → Bool
  | [] => true
  | x :: xs => x.isKey && allKeys xs

end

mutual

/-- Whether two values are the same key.  Numbers compare by value, whatever their kind, and
a default operator equals its word. -/
def same : Value → Value → Bool
  | .null, .null => true
  | .num a, .num b => a.same b
  | .str s, v => v.text? = some s
  | .operator o, v => v.text? = some o.word
  | .bytes a, .bytes b => a = b
  | .tuple xs, .tuple ys => sameAll xs ys
  | .point p, .point q => p.same q
  | .unit a, .unit b => a = b
  | _, _ => false

def sameAll : List Value → List Value → Bool
  | [], [] => true
  | x :: xs, y :: ys => x.same y && sameAll xs ys
  | _, _ => false

end

/-- The values a sequence goes through: a text gives its characters, bytes their numbers and
a dictionary its keys.  Other values are no sequence. -/
def elements? : Value → Option (List Value)
  | .str s => some (s.toList.map fun c => .str c.toString)
  | .operator o => some (o.word.toList.map fun c => .str c.toString)
  | .bytes bs => some (bs.map fun b => .int b.toNat)
  | .list xs => some xs
  | .tuple xs => some xs
  | .dict entries => some (entries.map Prod.fst)
  | _ => none

/-- A dictionary with texts as keys. -/
def record (fields : List (String × Value)) : Value :=
  .dict (fields.map fun (k, v) => (.str k, v))

@[simp] theorem truthy_null : Value.null.truthy = false := rfl

@[simp] theorem truthy_one : (Value.num .one).truthy = true := by simp [truthy]

@[simp] theorem isKey_str (s : String) : (Value.str s).isKey = true := rfl

@[simp] theorem text?_str (s : String) : (Value.str s).text? = some s := rfl

theorem isKey_of_text? {v : Value} {s : String} (h : v.text? = some s) : v.isKey = true := by
  cases v <;> simp [text?] at h <;> rfl

end Value
end Criteria
