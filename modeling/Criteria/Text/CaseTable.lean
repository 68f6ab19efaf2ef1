/-
# Case tables

A case mapping sends most characters to themselves, many to one other character and a few
to a sequence of two or three.  The characters that move come in runs, and the runs in
blocks, both in ascending order, so that a look-up passes over few of them.
-/

namespace Criteria
namespace Text

/-- Code points `first`, `first + step`, … up to `last`.  The first is sent to `image`, and
the others to that image moved by the same distance; a run whose image has several code
points has one member. -/
structure Run where
  first : Nat
  last : Nat
  step : Nat
  image : List Nat
deriving DecidableEq, Repr

/-- Whether a code point belongs to a run that does not end before it. -/
def Run.holds (r : Run) (c : Nat) : Bool := r.first ≤ c && (c - r.first) % r.step == 0

/-- The image of a code point under ascending runs; outside them it is the code point
itself. -/
def Run.find : List Run → Nat → List Nat
  | [], c => [c]
  | r :: rs, c =>
    if r.last < c then find rs c
    else if r.holds c then r.image.map (· + (c - r.first))
    else [c]

/-- Some ascending runs, all of them at most `last`. -/
structure Block where
  last : Nat
  runs : List Run
deriving DecidableEq, Repr

/-- A case mapping, as ascending blocks of runs. -/
structure CaseTable where
  blocks : List Block

namespace CaseTable

/-- The image of a code point under ascending blocks. -/
def find : List Block → Nat → List Nat
  | [], c => [c]
  | b :: bs, c => if b.last < c then find bs c else Run.find b.runs c

/-- The image of a code point. -/
def code (t : CaseTable) (c : Nat) : List Nat := find t.blocks c

/-- The image of a character. -/
def char (t : CaseTable) (c : Char) : List Char := (t.code c.toNat).map Char.ofNat

/-- The image of a text, character by character. -/
def text (t : CaseTable) (s : List Char) : List Char := s.flatMap t.char

theorem text_nil (t : CaseTable) : t.text [] = [] := rfl

theorem text_cons (t : CaseTable) (c : Char) (s : List Char) :
    t.text (c :: s) = t.char c ++ t.text s := rfl

theorem text_append (t : CaseTable) (s u : List Char) :
    t.text (s ++ u) = t.text s ++ t.text u := by
  simp [text]

end CaseTable
end Text
end Criteria
