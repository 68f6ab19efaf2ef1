/-
# Significant digits

A magnitude is written with some of its significant digits: the fewest that read back, or a
given number of them, nearest the magnitude.  The digits stand apart from the exponent, so
that each layout can place the point where it wants it.
-/
import Criteria.Number.Shortest

namespace Criteria

/-- Decimal digits, the first of which counts multiples of `10 ^ exponent`. -/
structure Significand where
  digits : List Char
  exponent : Int

namespace Significand

/-- The digits of zero. -/
def zero (count : Nat) : Significand := ⟨List.replicate count '0', 0⟩

/-- Remove the zeros at the end, but never the first digit. -/
def trim (s : Significand) : Significand :=
  { s with digits :=
      s.digits.take 1 ++ ((s.digits.drop 1).reverse.dropWhile (· == '0')).reverse }

/-- All digits of a decimal. -/
def ofDecimal (d : Decimal) : Significand :=
  let digits := Nat.toDigits 10 d.digits
  ⟨digits, digits.length + d.exponent - 1⟩

/-- The fewest digits that read back as a magnitude in units. -/
def shortest (units : Nat) : Significand :=
  if units = 0 then .zero 1 else (ofDecimal (.shortest units)).trim

/-- So many digits, nearest a magnitude in units; a tie goes to the even neighbour.  A
magnitude that rounds up to a power of ten has one digit too many, a zero.  Digits beyond
those that a double has are zeros and are not computed. -/
def rounded (units count : Nat) : Significand :=
  if units = 0 then .zero count
  else
    let sought := min count Binary64.digitsOfAny
    let last := Decimal.leadingExponent units - (sought - 1 : Nat)
    let s := ofDecimal ⟨Binary64.roundHalfEven (units * Nat.pow 10 (-last).toNat)
      (Binary64.unitsOfOne * Nat.pow 10 last.toNat), last⟩
    { s with digits := s.digits.take sought ++ List.replicate (count - sought) '0' }

end Significand
end Criteria
