/-
# Default operators

A query string joins its terms by an operator where it does not name one itself.
-/

namespace Criteria

/-- How the terms of a query string are joined where it does not say. -/
inductive DefaultOperator where
  | and
  | or
deriving DecidableEq, Repr

namespace DefaultOperator

def all : List DefaultOperator := [.and, .or]

/-- The word for the operator, which is also its name. -/
def word : DefaultOperator → String
  | .and => "AND"
  | .or => "OR"

end DefaultOperator
end Criteria
