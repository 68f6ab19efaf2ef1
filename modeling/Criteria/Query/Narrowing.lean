/-
# Narrowing a query

A query is narrowed by a clause that every match has to pass in addition.  A combination
takes the clause as one more filter; its alternatives become required clauses when it asks
for at least as many of them as there are, and otherwise the number it asks for is written
down, because a filter next to the alternatives would make them optional.  Where nothing
matches, nothing is narrowed.
-/
import Criteria.Fault
import Criteria.Query

namespace Criteria
namespace Query

/-- The setting that says how many alternatives have to match. -/
def minimumName : String := "minimum_should_match"

/-- A number of alternatives; it is written in the form in which it was given. -/
structure Minimum where
  count : Nat
  written : Value

/-- A number of alternatives, as a setting gives it. -/
def Minimum.ofValue : Value → Except Fault Minimum
  | .num (.int n) => if 0 ≤ n then .ok ⟨n.toNat, .int n⟩ else .error .minimumNotANumber
  | .num (.bool b) => .ok ⟨if b then 1 else 0, .bool b⟩
  | _ => .error .minimumNotANumber

/-- The number of alternatives that have to match where no setting gives it: one, where
nothing else is required. -/
def Minimum.standing (must filter should : List Query) : Minimum :=
  if should.isEmpty || !must.isEmpty || !filter.isEmpty then ⟨0, .int 0⟩ else ⟨1, .int 1⟩

/-- How many alternatives of a combination have to match.  A setting of nothing counts as no
setting. -/
def minimum (must filter should : List Query) (settings : Table String Value) :
    Except Fault Minimum :=
  match Table.get? (· == ·) minimumName settings with
  | none | some .null => .ok (.standing must filter should)
  | some v => Minimum.ofValue v

/-- A query narrowed by a filter. -/
def narrow (base clause : Query) : Except Fault Query :=
  match base with
  | .leaf type parameters =>
    .ok (if type = "match_all" then filters [clause]
      else if type = "match_none" then .leaf type parameters
      else .bool [.leaf type parameters] [] [clause] [] [])
  | .bool must mustNot filter should settings => do
    let least ← minimum must filter should settings
    let others := settings.filter (·.1 ≠ minimumName)
    return if should.length ≤ least.count then
      .bool (must ++ should) mustNot (filter ++ [clause]) [] others
    else
      .bool must mustNot (filter ++ [clause]) should
        (others ++ [(minimumName, least.written)])

end Query
end Criteria
