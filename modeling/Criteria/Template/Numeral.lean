/-
# Filled and grouped

A shown text is filled up to its width, and the digits of a number stand in groups.

* `Spec.filled` fills a text.
* `Spec.numeral` puts a number together from its sign, the mark of its base, its digits and
  what follows them.
-/
import Criteria.Template.Spec

namespace Criteria
namespace Template
namespace Spec

/-! ## Filling -/

/-- Fill a text, the head of which stands apart from the rest, up to the width. -/
def filled (spec : Spec) (head body : List Char) : List Char :=
  let count := spec.width - (head.length + body.length)
  let filling := List.replicate count spec.fill
  match spec.align with
  | .left => head ++ body ++ filling
  | .right => filling ++ head ++ body
  | .centre => filling.take (count / 2) ++ head ++ body ++ filling.drop (count / 2)
  | .apart => head ++ filling ++ body

/-! ## Digits -/

/-- How many digits a group has. -/
def groupSize (spec : Spec) : Nat :=
  if spec.code.any baseCodes.contains then 4 else 3

/-- Put a separator between groups of digits, which are counted from the right. -/
def grouped (separator : Char) (size : Nat) : List Char → List Char
  | [] => []
  | c :: s =>
    if s.length % size = 0 && !s.isEmpty then c :: separator :: grouped separator size s
    else c :: grouped separator size s

/-- How many digits fill a width at least, with a separator after each group of them.  A
separator is never the first character. -/
def digitsWithin (size width : Nat) : Nat :=
  width / (size + 1) * size + max (width % (size + 1)) 1

/-- Digits in groups.  Where zeros fill a number from within, they are digits of it, and
`room` is the width they have. -/
def digits (spec : Spec) (room : Nat) (ds : List Char) : List Char :=
  let room := if spec.fill = '0' ∧ spec.align = .apart then room else 0
  match spec.separator with
  | some separator =>
    let size := spec.groupSize
    grouped separator size
      (List.replicate (digitsWithin size room - ds.length) '0' ++ ds)
  | none => List.replicate (room - ds.length) '0' ++ ds

/-- The sign of a number. -/
def signOf (spec : Spec) (negative : Bool) : List Char :=
  if negative then ['-']
  else match spec.sign with
    | some '+' => ['+']
    | some ' ' => [' ']
    | _ => []

/-- A number from its parts: its sign, the mark of its base, its digits, and what follows
them.  What has no digits is not grouped. -/
def numeral (spec : Spec) (negative : Bool) (mark ds rest : List Char) : List Char :=
  let head := spec.signOf negative ++ mark
  let ds := if ds.isEmpty then [] else spec.digits (spec.width - (head.length + rest.length)) ds
  spec.filled head (ds ++ rest)

/-! ## Facts -/

/-- A filled text is as long as the width, if the text itself is not longer. -/
theorem length_filled (spec : Spec) (head body : List Char) :
    (spec.filled head body).length = max spec.width (head.length + body.length) := by
  have h : ∀ n k : Nat, min (n / 2) n + k + (n - n / 2) = n + k := fun n k => by omega
  unfold filled
  cases spec.align <;> simp <;> omega

/-- Without its separators a grouped number has the digits it had. -/
theorem filter_grouped (separator : Char) (size : Nat) (ds : List Char) :
    (grouped separator size ds).filter (· != separator) = ds.filter (· != separator) := by
  induction ds with
  | nil => rfl
  | cons c s ih =>
    by_cases h : s.length % size = 0 && !s.isEmpty
    · simp only [grouped, h, if_true]
      simp [List.filter_cons, ih]
    · simp only [grouped, h]
      simp [List.filter_cons, ih]

end Spec
end Template
end Criteria
