/-
# Parameters of queries

A query has a type, which has to be one that the search engine knows, and parameters.  The
name of a parameter has to be a text that is not reserved.

The rules for these names, `Query.forbiddenNames` and `Query.sentName`, are those of the package
of query classes.  It is not part of this library, and its rules are taken as given; they are the
same for all types.  A name that the class of a single type may use for a parameter of its own,
such as `_field` or `_value`, is a name like any other.

* `Query.typeName` is the type that a value names.
* `Query.leafParameters` are parameters under the names and in the forms in which they are
  sent.
-/
import Criteria.Fault

namespace Criteria
namespace Query

/-- The types of queries that the search engine has. -/
def types : List String := [
  "bool", "boosting", "combined_fields", "common", "constant_score", "dis_max",
  "distance_feature", "exists", "function_score", "fuzzy", "geo_bounding_box", "geo_distance",
  "geo_grid", "geo_polygon", "geo_shape", "has_child", "has_parent", "ids", "intervals", "knn",
  "match", "match_all", "match_bool_prefix", "match_none", "match_phrase",
  "match_phrase_prefix", "more_like_this", "multi_match", "nested", "parent_id", "percolate",
  "pinned", "prefix", "query_string", "range", "rank_feature", "regexp", "rule", "script",
  "script_score", "semantic", "shape", "simple_query_string", "span_containing",
  "span_field_masking", "span_first", "span_multi", "span_near", "span_not", "span_or",
  "span_term", "span_within", "sparse_vector", "term", "terms", "terms_set", "text_expansion",
  "type", "weighted_tokens", "wildcard", "wrapper"]

/-- The type that a value names. -/
def typeName (type : Value) : Except Fault String :=
  match type.text? with
  | some name => if types.contains name then .ok name else .error (.unknownQuery type)
  | none => .error (if type.isKey then .unknownQuery type else .wrongType)

/-- The parameter that says whether a double underscore stands for a dot in the names of the
others. -/
def dottingName : String := "_expand__to_dot"

/-- The names that a parameter cannot have. -/
def forbiddenNames : List String := ["self", dottingName]

/-- The name under which a parameter is sent: a trailing underscore keeps `from` apart from
a reserved word and is taken off. -/
def sentName (name : String) : String := if name = "from_" then "from" else name

/-- The name of a parameter, which has to be a text. -/
def parameterName (key : Value) : Except Fault String :=
  match key.text? with
  | some name => if forbiddenNames.contains name then .error .wrongType else .ok (sentName name)
  | none => .error .wrongType

/-- Put a dot in place of each double underscore, from left to right. -/
def dotted : List Char → List Char
  | '_' :: '_' :: s => '.' :: dotted s
  | c :: s => c :: dotted s
  | [] => []

/-- A parameter in the form in which a type of query sends it: the values of `terms` are
sent as a list. -/
def sentValue (type : String) (v : Value) : Value :=
  if type = "terms" then
    match v with
    | .tuple xs => .list xs
    | .bytes bs => .list (bs.map fun b => .int b.toNat)
    | v => v
  else v

/-- Some parameters under the names and in the forms in which they are sent. -/
def sentParameters (type : String) :
    List (Value × Value) → Except Fault (List (String × Value))
  | [] => .ok []
  | (key, v) :: rest => do
    let name ← parameterName key
    let others ← sentParameters type rest
    return (name, sentValue type v) :: others

/-- The parameters of a leaf; of several sent under one name the last counts. -/
def leafParameters (type : String) (parameters : List (Value × Value)) :
    Except Fault (Table String Value) :=
  (sentParameters type parameters).map (Table.ofList (· == ·))

end Query
end Criteria
