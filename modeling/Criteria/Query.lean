/-
# Queries

A query is a leaf of some type with named parameters, or a boolean combination of queries.
A combination has four lists of clauses, as the search engine takes them: what must match,
what must not, what filters, and alternatives; next to them stand the settings that are no
clauses.

`Query.toValue` is the dictionary form of a query.
-/
import Criteria.Value

namespace Criteria

inductive Query where
  | leaf (type : String) (parameters : Table String Value)
  | bool (must mustNot filter should : List Query) (settings : Table String Value)

namespace Query

instance : Inhabited Query := ⟨.bool [] [] [] [] []⟩

/-- The combination of alternatives only. -/
def anyOf (alternatives : List Query) : Query := .bool [] [] [] alternatives []

/-- The combination of filters only. -/
def filters (clauses : List Query) : Query := .bool [] [] clauses [] []

/-- A list of clauses as a parameter of a combination; an empty list is left out. -/
def clauseEntry (name : String) (clauses : List Value) : List (String × Value) :=
  if clauses.isEmpty then [] else [(name, .list clauses)]

mutual

/-- A query as a dictionary: its type and its parameters. -/
def toValue : Query → Value
  | .leaf type parameters => .record [(type, .record parameters)]
  | .bool must mustNot filter should settings =>
    .record [("bool", .record (
      clauseEntry "must" (toValues must) ++ clauseEntry "must_not" (toValues mustNot) ++
        clauseEntry "filter" (toValues filter) ++ clauseEntry "should" (toValues should) ++
        settings))]

def toValues : List Query → List Value
  | [] => []
  | q :: qs => q.toValue :: toValues qs

end

end Query
end Criteria
