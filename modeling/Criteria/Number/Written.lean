/-
# Written numbers

Significant digits are written positionally while their exponent is moderate, and with an
exponent otherwise.  Where one style ends and the other begins, and what becomes of a point
with nothing after it, is the `Layout`.
-/
import Criteria.Number.Significand

namespace Criteria

/-- How a number is laid out. -/
structure Layout where
  /-- The least leading exponent that is written positionally. -/
  positionalFrom : Int
  /-- The least leading exponent above those that are written positionally. -/
  positionalBelow : Int
  /-- How many digits an exponent has at least. -/
  exponentWidth : Nat
  /-- Whether a positional number has a digit after the point at least. -/
  pointZero : Bool
  /-- Whether a point stands even with nothing after it. -/
  keepPoint : Bool

namespace Layout

/-- Numbers from `0.0001` to just below `10 ^ 16` are written positionally, with a digit on
each side of the point, and an exponent has two digits or more. -/
def standard : Layout := ⟨-4, 16, 2, true, false⟩

/-- The point and the digits after it. -/
def afterPoint (l : Layout) (fraction : List Char) : List Char :=
  if fraction.isEmpty && !l.keepPoint then [] else '.' :: fraction

/-- A number without an exponent.  The point stands `point` places after the first digit, and
there is a digit in front of it. -/
def positional (l : Layout) (digits : List Char) (point : Int) : List Char :=
  if point ≤ 0 then
    '0' :: l.afterPoint (List.replicate (-point).toNat '0' ++ digits)
  else
    let whole := digits.take point.toNat
    let fraction := digits.drop point.toNat
    whole ++ List.replicate (point.toNat - digits.length) '0' ++
      l.afterPoint (if fraction.isEmpty && l.pointZero then ['0'] else fraction)

/-- One digit, the others after a point, and a signed exponent. -/
def scientific (l : Layout) (digits : List Char) (exponent : Int) : List Char :=
  let power := Nat.toDigits 10 exponent.natAbs
  digits.take 1 ++ l.afterPoint (digits.drop 1) ++
    'e' :: (if exponent < 0 then '-' else '+') ::
      (List.replicate (l.exponentWidth - power.length) '0' ++ power)

/-- Significant digits in the style that their exponent asks for. -/
def significand (l : Layout) (s : Significand) : List Char :=
  if l.positionalFrom ≤ s.exponent ∧ s.exponent < l.positionalBelow then
    l.positional s.digits (s.exponent + 1)
  else l.scientific s.digits s.exponent

/-- A magnitude in units with so many places after the point; a tie goes to the even
neighbour.  Places beyond those that a double has are zeros and are not computed. -/
def places (l : Layout) (count units : Nat) : List Char :=
  let sought := min count Binary64.placesOfAny
  let n := Binary64.roundHalfEven (units * Nat.pow 10 sought) Binary64.unitsOfOne
  let all := Nat.toDigits 10 n
  let digits := List.replicate (sought + 1 - all.length) '0' ++ all
  let whole := digits.length - sought
  digits.take whole ++
    l.afterPoint (digits.drop whole ++ List.replicate (count - sought) '0')

/-- The text of a double: the fewest digits that read back. -/
def binary64 (l : Layout) : Binary64 → List Char
  | .nan => "nan".toList
  | .infinite negative => (if negative then ['-'] else []) ++ "inf".toList
  | .finite negative units =>
    (if negative then ['-'] else []) ++ l.significand (.shortest units)

end Layout
end Criteria
