/-
# Compiling a store

A compiler turns the constraints of a store into one query: a combination with a single
filter, which is itself a combination of the clauses that the constraints contribute.  A
constraint contributes one clause, or none if it names an operator that is unknown; a
strict compiler refuses such a constraint and a lenient one notes that it was skipped.

* `Compiler.contribution` is what one constraint contributes.
* `Compiler.ofKind` puts the clauses of all constraints of a kind behind those that are
  there already, up to the first fault; `Compiler.ofItems` goes through the kinds.
* `Compiler.compile` is the query of a store, with the log of its making.
-/
import Criteria.FieldMap
import Criteria.Geo.Distance
import Criteria.Registry
import Criteria.Store
import Criteria.Text.Escape

namespace Criteria

/-- The three lists of clauses that constraints contribute to. -/
inductive Slot where
  | must
  | mustNot
  | filter
deriving DecidableEq, Repr

/-- What a constraint contributes: a clause, or the note that its operator is unknown. -/
inductive Contribution where
  | clause (slot : Slot) (query : Query)
  | skipped (operatorName field : Value)

/-- The clauses gathered from some constraints. -/
structure Clauses where
  must : List Query
  mustNot : List Query
  filter : List Query

namespace Clauses

/-- No clauses. -/
def none : Clauses := ⟨[], [], []⟩

/-- Put a clause at the end of its list. -/
def push (c : Clauses) (slot : Slot) (q : Query) : Clauses :=
  match slot with
  | .must => { c with must := c.must ++ [q] }
  | .mustNot => { c with mustNot := c.mustNot ++ [q] }
  | .filter => { c with filter := c.filter ++ [q] }

/-- The combination of the clauses. -/
def query (c : Clauses) : Query := .bool c.must c.mustNot c.filter [] []

end Clauses

/-- A value with its reserved characters escaped; only a text has any. -/
def Value.escaped (v : Value) : Value :=
  match v.text? with
  | some s => .str (String.ofList (Text.escape s.toList))
  | none => v

/-- What a compiler knows besides the store. -/
structure Compiler where
  registry : Registry
  fields : FieldMap
  /-- Whether an unknown operator is a fault; any value that counts as true says so. -/
  strict : Value

namespace Compiler

/-! ## Leaves -/

/-- A comparison with one value. -/
def term (c : Compiler) (field value boost : Value) : Except Fault Query := do
  Query.ofField "term" (← c.fields.find field) (.record [("value", value), ("boost", boost)])

/-- A comparison with several values. -/
def terms (c : Compiler) (field values : Value) : Except Fault Query := do
  Query.ofField "terms" (← c.fields.find field) values

/-- A range; its bounds are sent as they are. -/
def range (c : Compiler) (field lower upper : Value) : Except Fault Query := do
  Query.ofField "range" (← c.fields.find field) (.record [("from", lower), ("to", upper)])

/-- A full-text search in one field. -/
def textMatch (c : Compiler) (field keyword : Value) : Except Fault Query := do
  Query.ofField "match" (← c.fields.find field) keyword

/-- The presence of a field. -/
def presence (c : Compiler) (field : Value) : Except Fault Query := do
  return .leaf "exists" [("field", ← c.fields.find field)]

/-- A pair of values from a sequence of exactly two. -/
def pairOf (v : Value) : Except Fault (Value × Value) :=
  match v.elements? with
  | some [x, y] => .ok (x, y)
  | some [] => .error (.tooFewElements 0)
  | some [_] => .error (.tooFewElements 1)
  | some _ => .error .tooManyElements
  | none => .error .wrongType

/-- The comparisons of a sequence of pairs of a field and its values. -/
def termsOfPairs (c : Compiler) : List Value → Except Fault (List Query)
  | [] => .ok []
  | v :: vs => do
    let (field, values) ← pairOf v
    let q ← c.terms field values
    let qs ← c.termsOfPairs vs
    return q :: qs

/-- The alternatives of a batch: a sequence of pairs. -/
def alternatives (c : Compiler) (terms : Value) : Except Fault (List Query) :=
  match terms.elements? with
  | some vs => c.termsOfPairs vs
  | none => .error .wrongType

/-- A distance from a place.  The field stands next to the distance, so that a field of that
name takes its place. -/
def nearby (c : Compiler) (field location distance unit : Value) : Except Fault Query := do
  let distance ← distance.toDistance unit
  let field ← c.fields.find field
  if field.isKey then
    Query.ofParameters (.str "geo_distance")
      (Table.put Value.same field location.toLocation [(.str "distance", distance)])
  else .error .wrongType

/-- The text of a query string, escaped if that is asked for. -/
def keywordText (keyword escape : Value) : Value :=
  if escape.truthy then keyword.escaped else keyword

/-- A query string over one field. -/
def simpleQueryString (c : Compiler) (field keyword escape : Value) : Except Fault Query := do
  let field ← c.fields.find field
  return .leaf "simple_query_string"
    [("query", keywordText keyword escape), ("fields", .list [field])]

/-- The default operator as a parameter, unless there is none. -/
def operatorParameter : Value → Table String Value
  | .null => []
  | .operator o => [("default_operator", .str o.word)]
  | v => [("default_operator", v)]

/-- A query string over several fields. -/
def queryString (c : Compiler) (fields defaultOperator keyword escape : Value) :
    Except Fault Query := do
  let fields ← c.fields.findAll fields
  return .leaf "query_string"
    ([("query", keywordText keyword escape), ("fields", .list fields)] ++
      operatorParameter defaultOperator)

/-! ## Contributions -/

/-- A clause in a slot, if its query could be built. -/
def inSlot (slot : Slot) (q : Except Fault Query) : Except Fault Contribution :=
  q.map (.clause slot)

/-- What a condition with a named operator contributes. -/
def named (c : Compiler) (field operatorName arguments : Value) :
    Except Fault Contribution := do
  let mapped ← c.fields.find field
  match ← c.registry.create operatorName mapped arguments with
  | some q => return .clause .must (.anyOf [q])
  | none =>
    if c.strict.truthy then .error (.unsupportedOperator operatorName field)
    else return .skipped operatorName field

/-- What a constraint contributes. -/
def contribution (c : Compiler) : Constraint → Except Fault Contribution
  | .equals field value boost => inSlot .must (c.term field value boost)
  | .notEquals field value boost => inSlot .mustNot (c.term field value boost)
  | .notIn field values => inSlot .mustNot (c.terms field values)
  | .inRange field lower upper => inSlot .must (c.range field lower upper)
  | .notInRange field lower upper => inSlot .mustNot (c.range field lower upper)
  | .termsAny field values =>
    inSlot .must ((c.terms field values).map fun q => .anyOf [q])
  | .whereOr terms => inSlot .must ((c.alternatives terms).map .anyOf)
  | .present field => inSlot .must (c.presence field)
  | .absent field => inSlot .mustNot (c.presence field)
  | .textMatch field keyword => inSlot .filter (c.textMatch field keyword)
  | .textMismatch field keyword => inSlot .mustNot (c.textMatch field keyword)
  | .geoDistance field location distance unit =>
    inSlot .filter (c.nearby field location distance unit)
  | .simpleQueryString field keyword escape =>
    inSlot .filter (c.simpleQueryString field keyword escape)
  | .queryString fields defaultOperator keyword escape =>
    inSlot .filter (c.queryString fields defaultOperator keyword escape)
  | .namedConditionOr field operatorName arguments => c.named field operatorName arguments

/-! ## Going through a store -/

/-- Put the clauses of some constraints behind those that are there, one constraint after the
other.  The first fault ends this; the notes before it are kept. -/
def each (c : Compiler) (before : Clauses) : List Constraint → Outcome Clauses
  | [] => .silent (.ok before)
  | x :: xs =>
    match c.contribution x with
    | .error e => .silent (.error e)
    | .ok (.clause slot q) => c.each (before.push slot q) xs
    | .ok (.skipped operatorName field) =>
      (c.each before xs).after (.skipped operatorName field)

/-- The alternatives of a constraint; only a batch has any. -/
def alternativesOf (c : Compiler) : Constraint → Except Fault (List Query)
  | .whereOr terms => c.alternatives terms
  | _ => .error .noSuchAttribute

/-- Put one clause with the alternatives of some batches behind those that are there. -/
def shared (c : Compiler) (before : Clauses) (xs : List Constraint) : Outcome Clauses :=
  .silent ((xs.mapM c.alternativesOf).map fun groups => before.push .must (.anyOf groups.flatten))

/-- Put the clauses of the constraints of a kind behind those that are there.  Batches share a
clause, which is there even if it has no alternatives. -/
def ofKind (c : Compiler) (before : Clauses) : Kind → List Constraint → Outcome Clauses
  | .whereOr, xs => c.shared before xs
  | _, xs => c.each before xs

/-- Put the clauses of several kinds behind those that are there, kind by kind. -/
def ofItems (c : Compiler) (before : Clauses) :
    List (Kind × List Constraint) → Outcome Clauses
  | [] => .silent (.ok before)
  | (k, xs) :: rest => (c.ofKind before k xs).andThen (c.ofItems · rest)

/-- The query of some clauses: the combination of the clauses, as the one filter of a
combination. -/
def tree (clauses : Clauses) : Query := .filters [clauses.query]

/-- The note on a finished compilation. -/
def finished (s : Store) (clauses : Clauses) : Event :=
  .compiled s.size clauses.must.length clauses.mustNot.length clauses.filter.length

/-- The clauses of a store. -/
def clauses (c : Compiler) (s : Store) : Outcome Clauses :=
  (c.ofItems .none s.items).andThen fun clauses => ⟨[finished s clauses], .ok clauses⟩

/-- The query of a store. -/
def compile (c : Compiler) (s : Store) : Outcome Query := (c.clauses s).map tree

/-- A line that shows the known operators and whether the compiler is strict. -/
def summary (c : Compiler) : String :=
  "<QueryCompiler: operators=" ++ (Value.list (c.registry.names.map .str)).literal ++
    ", strict=" ++ c.strict.written ++ ">"

end Compiler
end Criteria
