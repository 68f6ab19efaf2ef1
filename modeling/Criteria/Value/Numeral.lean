/-
# Numerals

A number can be given as a text, and a text can show one.  An integer is read and written only
up to a number of digits.

* `Number.realOfText` and `Number.integerOfText` read a number.
* `Number.isWritable`: a number with few enough digits; `Number.whenWritable` asks for that.
-/
import Criteria.Fault

namespace Criteria
namespace Number

/-! ## Reading -/

/-- The double that a text gives. -/
def realOfText (text : String) : Except Fault Number :=
  match Binary64.ofText? text.toList with
  | some x => .ok (.real x)
  | none => .error (.notAReal text)

/-- The integer that a text gives: a sign perhaps and digits.  That they are too many counts
before what follows them, an underscore apart. -/
def integerOfText (text : String) : Except Fault Number :=
  let (negative, s) := readSign (Text.strip text.toList)
  let (ds, rest) := readDigits false s
  if ds.isEmpty || rest.head? = some '_' then .error (.notAnInteger text)
  else if Fault.digitLimit < ds.length then .error (.tooManyDigits (some ds.length))
  else if rest.isEmpty then .ok (.int (integerOfDigits negative ds))
  else .error (.notAnInteger text)

/-! ## Writing -/

/-- Whether a number can be written: an integer has to have few enough digits, a minus sign
apart. -/
def isWritable : Number → Bool
  | .int n => (Nat.toDigits 10 n.natAbs).length ≤ Fault.digitLimit
  | _ => true

/-- What is made from the written form of a number, if that can be written. -/
def whenWritable {α : Type} (n : Number) (a : α) : Except Fault α :=
  if n.isWritable then .ok a else .error (.tooManyDigits none)

variable {α : Type} {n : Number} {a b : α}

theorem whenWritable_of_isWritable (h : n.isWritable = true) : n.whenWritable a = .ok a :=
  if_pos h

theorem whenWritable_of_not_isWritable (h : ¬ n.isWritable = true) :
    n.whenWritable a = .error (.tooManyDigits none) :=
  if_neg h

theorem isWritable_int_iff {n : Int} : (Number.int n).isWritable = true ↔
    (Nat.toDigits 10 n.natAbs).length ≤ Fault.digitLimit := decide_eq_true_iff

theorem isWritable_int_iff_lt {n : Int} : (Number.int n).isWritable = true ↔
    n.natAbs < Nat.pow 10 Fault.digitLimit := by
  have hdigits (k : Nat) (hk : 0 < k) :
      (Nat.toDigits 10 n.natAbs).length ≤ k ↔ n.natAbs < Nat.pow 10 k :=
    Nat.length_toDigits_le_iff (by decide) hk
  exact isWritable_int_iff.trans (hdigits Fault.digitLimit (by decide))

theorem whenWritable_eq_ok_iff : n.whenWritable a = .ok b ↔ n.isWritable = true ∧ a = b := by
  by_cases h : n.isWritable = true <;> simp [whenWritable, h]

end Number
end Criteria
