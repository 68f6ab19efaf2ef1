/-
# Ranges of code points

A property of characters is stored as ascending ranges of the code points that have it.
-/

namespace Criteria
namespace Text

/-- The code points from `first` to `last`. -/
structure Range where
  first : Nat
  last : Nat
deriving DecidableEq, Repr

/-- Whether a code point lies in one of some ascending ranges. -/
def Range.any : List Range → Nat → Bool
  | [], _ => false
  | r :: rs, c => r.first ≤ c && (c ≤ r.last || any rs c)

end Text
end Criteria
