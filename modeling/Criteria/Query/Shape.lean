/-
# Queries as parameters

Some types of queries have parameters that are queries themselves.  Which they are, and
whether they hold one query or several, is the shape of the type.  A single query stands for
a list of one, and an empty list is left out.

* `Query.shapes` are the shapes of the types.
* `Query.assemble` is a query whose parameters have been read.
-/
import Criteria.Query
import Criteria.Query.Parameter

namespace Criteria
namespace Query

/-- What a parameter is made of. -/
inductive Shape where
  | one
  | many
  | functions
  /-- A score function whose name is that of the parameter. -/
  | function
deriving DecidableEq

/-- The score functions that the search engine has. -/
def scoreFunctions : List String :=
  ["script_score", "boost_factor", "random_score", "field_value_factor", "linear", "gauss", "exp"]

/-- The parameters of a type that are made of queries, in the order in which they are read.  A
score function can be given under its name where there is no list of them. -/
def shapes : String → List (String × Shape)
  | "bool" => [("filter", .many), ("must", .many), ("must_not", .many), ("should", .many)]
  | "boosting" => [("negative", .one), ("positive", .one)]
  | "constant_score" => [("filter", .one)]
  | "dis_max" => [("queries", .many)]
  | "function_score" =>
    ("functions", .functions) :: scoreFunctions.map (·, .function) ++
      [("query", .one), ("filter", .one)]
  | "has_child" | "has_parent" | "nested" | "script_score" => [("query", .one)]
  | "knn" => [("filter", .many)]
  | "pinned" | "rule" => [("organic", .one)]
  | "span_multi" => [("match", .one)]
  | _ => []

/-- The shapes of a type that is given as any value. -/
def shapesOf (type : Value) : List (String × Shape) := (type.text?.map shapes).getD []

/-- The name and the shape of a parameter, if it is made of queries. -/
def shape? (shapes : List (String × Shape)) (key : Value) : Option (String × Shape) :=
  shapes.find? fun s => key.text? = some s.1

/-- A parameter that has been read.  Score functions are in their dictionary form. -/
inductive Clause where
  | one (q : Query)
  | many (qs : List Query)
  | functions (fs : List Value)

namespace Clause

/-- The queries of a clause. -/
def queries : Clause → List Query
  | .one q => [q]
  | .many qs => qs
  | .functions _ => []

/-- The score functions of a clause. -/
def scoring : Clause → List Value
  | .functions fs => fs
  | _ => []

/-- A clause of queries as a parameter of a leaf. -/
def entry (name : String) : Clause → List (String × Value)
  | .one q => [(name, q.toValue)]
  | .many qs => clauseEntry name (toValues qs)
  | .functions _ => []

end Clause

/-- What came of reading each parameter that is made of queries. -/
abbrev Readings := List (String × Except Fault Clause)

/-- The clauses of some shapes, in their order, up to the first fault. -/
def inOrder (readings : Readings) : List (String × Shape) → Except Fault (Table String Clause)
  | [] => .ok []
  | (name, _) :: shapes =>
    match Table.get? (· == ·) name readings with
    | some reading => do
      let c ← reading
      let others ← inOrder readings shapes
      return (name, c) :: others
    | none => inOrder readings shapes

/-- The shapes that count: the names of score functions have no meaning next to a list of
them. -/
def liveShapes (shapes : List (String × Shape)) (readings : Readings) : List (String × Shape) :=
  if readings.any (·.1 == "functions") then shapes.filter (·.2 ≠ .function) else shapes

/-- A query of a type that has clauses. -/
def ofClauses (type : String) (clauses : Table String Clause) (others : Table String Value) :
    Query :=
  let named (name : String) : List Query :=
    ((Table.get? (· == ·) name clauses).map Clause.queries).getD []
  if type = "bool" then
    .bool (named "must") (named "must_not") (named "filter") (named "should") others
  else
    .leaf type (clauseEntry "functions" (clauses.flatMap (·.2.scoring)) ++
      clauses.flatMap (fun c => c.2.entry c.1) ++ others)

/-- The query of a type, given as any value, with some parameters, of which those that are
made of queries have been read.  All names are checked before a fault of a reading counts. -/
def assemble (type : Value) (parameters : List (Value × Value)) (readings : Readings) :
    Except Fault Query := do
  let name ← typeName type
  let sent ← leafParameters name parameters
  match shapes name with
  | [] => return .leaf name sent
  | shapes =>
    let shapes := liveShapes shapes readings
    let clauses ← inOrder readings shapes
    return ofClauses name clauses (sent.filter fun p => !shapes.any (·.1 == p.1))

end Query
end Criteria
