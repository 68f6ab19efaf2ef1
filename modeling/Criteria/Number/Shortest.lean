/-
# The shortest decimal that reads back

A positive double stands for every real number that rounds to it.  Among the decimals with
the fewest significant digits in that interval, `shortest` picks the one nearest the
double.  A grid of decimals that meets the interval contains one of the two grid points
around the double itself, so only these two are tried at each number of digits.
-/
import Criteria.Number.Binary64

namespace Criteria

/-- The number `digits * 10 ^ exponent`. -/
structure Decimal where
  digits : Nat
  exponent : Int
deriving DecidableEq, Repr

namespace Decimal

/-- How many decimal digits a number has; zero has none. -/
def width (n : Nat) : Nat := if n = 0 then 0 else (Nat.toDigits 10 n).length

/-- The exponent of the leading decimal digit of a positive magnitude in units: the
greatest `p` with `10 ^ p` at most the magnitude. -/
def leadingExponent (units : Nat) : Int :=
  if Binary64.unitsOfOne ≤ units then (width (units / Binary64.unitsOfOne) : Int) - 1
  else -(width ((Binary64.unitsOfOne - 1) / units) : Int)

/-- The real numbers that round to a positive magnitude, in quarters of a unit. -/
structure Interval where
  lower : Nat
  centre : Nat
  upper : Nat
  /-- Whether the two ends belong to the interval. -/
  closed : Bool

/-- The rounding interval of a positive magnitude.  Below a power of two the neighbour is
half as far away, and the ends round to the even significand. -/
def Interval.of (units : Nat) : Interval :=
  let step := Binary64.spacing units
  let below := if units = Nat.pow 2 52 * step ∧ step ≠ 1 then step else 2 * step
  { lower := 4 * units - below
    centre := 4 * units
    upper := 4 * units + 2 * step
    closed := units / step % 2 = 0 }

/-- Whether `num / den` quarters of a unit lie in the interval. -/
def Interval.holds (i : Interval) (num den : Nat) : Bool :=
  if i.closed then i.lower * den ≤ num && num ≤ i.upper * den
  else i.lower * den < num && num < i.upper * den

/-- The point of the grid of whole multiples of `10 ^ exponent` that lies in the interval
and is nearest its centre, if there is one.  A tie goes to the even multiple. -/
def nearestOnGrid (i : Interval) (exponent : Int) : Option Nat :=
  -- one grid step is `step / den` quarters of a unit
  let step := 4 * Binary64.unitsOfOne * Nat.pow 10 exponent.toNat
  let den := Nat.pow 10 (-exponent).toNat
  let k := i.centre * den / step
  let down := i.holds (k * step) den
  let up := i.holds ((k + 1) * step) den
  let rest := 2 * (i.centre * den % step)
  if down && up then
    if rest < step then some k
    else if step < rest then some (k + 1)
    else if k % 2 = 0 then some k else some (k + 1)
  else if down then some k
  else if up then some (k + 1)
  else none

/-- The decimal with the fewest digits, at most `count + fuel` and more than `count`, that
lies in the interval of a magnitude with leading exponent `p`. -/
def search (i : Interval) (p : Int) (count : Nat) : Nat → Option Decimal
  | 0 => none
  | fuel + 1 =>
    let exponent := p - count
    match nearestOnGrid i exponent with
    | some digits => some ⟨digits, exponent⟩
    | none => search i p (count + 1) fuel

/-- The exact decimal of a magnitude. -/
def exact (units : Nat) : Decimal := ⟨units * Nat.pow 5 1074, -1074⟩

/-- The shortest decimal that rounds to a positive magnitude.  Seventeen digits always
suffice; the exact decimal stands behind them. -/
def shortest (units : Nat) : Decimal :=
  (search (.of units) (leadingExponent units) 0 17).getD (exact units)

end Decimal
end Criteria
