/-
# Double precision numbers as exact magnitudes

Every finite double is a whole multiple of `2 ^ -1074`, the smallest positive one.  A
double is therefore stored as a sign and the count of these units, and questions of order
and rounding are questions about natural numbers.

`ofRatio` is the double nearest a given ratio, a tie going to the even significand, and
`ofDecimal` the double nearest a given decimal.
-/

namespace Criteria

/-- A double precision number: a finite one has a sign and a magnitude counted in units of
`2 ^ -1074`.  The two zeros differ in their sign. -/
inductive Binary64 where
  | nan
  | infinite (negative : Bool)
  | finite (negative : Bool) (units : Nat)
deriving DecidableEq, Repr

namespace Binary64

/-- The number of units in one.  It is kept folded in proofs, where only its sign matters. -/
@[irreducible] def unitsOfOne : Nat := Nat.pow 2 1074

theorem unitsOfOne_pos : 0 < unitsOfOne := by decide +kernel

/-- As many decimal places as any finite double has: a unit is `5 ^ 1074` over `10 ^ 1074`. -/
def placesOfAny : Nat := 1074

/-- At least as many significant decimal digits as any finite double has: one with `n` digits
before the point has `n + placesOfAny` at most, and `n` is below 310. -/
def digitsOfAny : Nat := 1400

/-- The least count of units that is too large for a finite double. -/
def unitsLimit : Nat := Nat.pow 2 2098

/-- The distance, in units, between neighbouring doubles around a magnitude: a significand
has 53 binary digits. -/
def spacing (units : Nat) : Nat := Nat.pow 2 (units.log2 - 52)

/-- The whole number nearest `num / den`, a tie going to the even one. -/
def roundHalfEven (num den : Nat) : Nat :=
  let whole := num / den
  let rest := num % den
  if 2 * rest < den then whole
  else if den < 2 * rest then whole + 1
  else if whole % 2 = 0 then whole
  else whole + 1

/-- The magnitude, in units, that is nearest `num / den` units and has at most 53
significant binary digits. -/
def nearestUnits (num den : Nat) : Nat :=
  let step := spacing (num / den)
  roundHalfEven num (den * step) * step

/-- The double nearest `± num / den`.  A magnitude that rounds to `2 ^ 1024` or beyond is
infinite. -/
def ofRatio (negative : Bool) (num den : Nat) : Binary64 :=
  let units := nearestUnits (num * unitsOfOne) den
  if units < unitsLimit then .finite negative units else .infinite negative

/-- The double nearest `± digits * 10 ^ exponent`, where `digits` has at most `width` decimal
digits.  Exponents far outside the range of doubles are settled without computing the
power. -/
def ofDecimal (negative : Bool) (digits width : Nat) (exponent : Int) : Binary64 :=
  if digits = 0 then .finite negative 0
  else if exponent < 0 then
    if exponent + width < -330 then .finite negative 0
    else ofRatio negative digits (Nat.pow 10 exponent.natAbs)
  else if 330 < exponent then .infinite negative
  else ofRatio negative (digits * Nat.pow 10 exponent.natAbs) 1

/-- The double nearest an integer. -/
def ofInt (n : Int) : Binary64 := ofRatio (n < 0) n.natAbs 1

/-- The double nearest a multiple of a double. -/
def times (k : Nat) : Binary64 → Binary64
  | .finite negative units => ofRatio negative (k * units) unitsOfOne
  | x => x

/-- The number one. -/
def one : Binary64 := .finite false unitsOfOne

end Binary64
end Criteria
