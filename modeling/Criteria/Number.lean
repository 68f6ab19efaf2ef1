/-
# Numbers

A number is a truth value, an integer of any size or a double.  Numbers of different kinds
compare by their exact values, truth values counting as 0 and 1, but each keeps its own
written form.
-/
import Criteria.Number.Reading
import Criteria.Number.Written

namespace Criteria

inductive Number where
  | bool (b : Bool)
  | int (n : Int)
  | real (x : Binary64)
deriving DecidableEq, Repr

namespace Number

/-- The value of a number on the extended line; not-a-number has none. -/
inductive Extended where
  | negInf
  /-- A finite value, counted in units of `2 ^ -1074`. -/
  | units (n : Int)
  | posInf
deriving DecidableEq, Repr

namespace Extended

def le : Extended → Extended → Bool
  | .negInf, _ => true
  | _, .posInf => true
  | .units m, .units n => m ≤ n
  | _, _ => false

end Extended

/-- The exact value of a number, unless it is not-a-number. -/
def value? : Number → Option Extended
  | .bool b => some (.units (if b then Binary64.unitsOfOne else 0))
  | .int n => some (.units (n * Binary64.unitsOfOne))
  | .real .nan => none
  | .real (.infinite negative) => some (if negative then .negInf else .posInf)
  | .real (.finite negative units) => some (.units (if negative then -(units : Int) else units))

/-- Whether a number is at most another.  Not-a-number compares with nothing. -/
def le (a b : Number) : Bool :=
  match a.value?, b.value? with
  | some x, some y => x.le y
  | _, _ => false

/-- Whether two numbers have the same value.  Not-a-number equals nothing, itself included. -/
def same (a b : Number) : Bool :=
  match a.value?, b.value? with
  | some x, some y => x = y
  | _, _ => false

/-- Whether a number is zero. -/
def isZero : Number → Bool
  | .bool b => !b
  | .int n => n = 0
  | .real (.finite _ units) => units = 0
  | .real _ => false

/-- Whether a number lies between `-bound` and `bound`. -/
def within (bound : Nat) (a : Number) : Bool :=
  le (.int (-bound)) a && le a (.int bound)

/-- The number one, as a double. -/
def one : Number := .real .one

/-- The written form of a number.  That of an integer has all its digits, however many. -/
def text : Number → String
  | .bool b => if b then "True" else "False"
  | .int n => n.repr
  | .real x => String.ofList (Layout.standard.binary64 x)

/-- A number is zero exactly if its value is. -/
theorem isZero_iff (a : Number) : a.isZero ↔ a.value? = some (.units 0) := by
  have h := Nat.ne_of_gt Binary64.unitsOfOne_pos
  cases a with
  | bool b => cases b <;> simp [isZero, value?, h]
  | int n =>
    have : n * Binary64.unitsOfOne = 0 ↔ n = 0 := by
      rw [Int.mul_eq_zero]
      omega
    simp [isZero, value?, this]
  | real x =>
    cases x with
    | nan => simp [isZero, value?]
    | infinite s => cases s <;> simp [isZero, value?]
    | finite s u => cases s <;> simp [isZero, value?]

@[simp] theorem isZero_one : one.isZero = false := by
  simp [one, Binary64.one, isZero, Nat.ne_of_gt Binary64.unitsOfOne_pos]

end Number
end Criteria
