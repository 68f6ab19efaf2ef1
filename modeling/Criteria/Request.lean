/-
# Requests

A request asks a store for a condition of some kind.  It names the values of the condition
and may leave out those that have a default.  The constraint that it stands for is made with
the default boost of the store, which also replaces a boost that counts as nothing.
-/
import Criteria.Constraint

namespace Criteria

/-- A request for a condition; a value that is left out is `none`. -/
inductive Request where
  | equals (field : Value) (value boost : Option Value)
  | notEquals (field : Value) (value boost : Option Value)
  | notIn (field : Value) (values : Option Value)
  | inRange (field : Value) (lower upper : Option Value)
  | notInRange (field : Value) (lower upper : Option Value)
  | termsAny (field values : Value)
  | whereOr (mapping : Value)
  | present (field : Value)
  | absent (field : Value)
  | textMatch (field keyword : Value)
  | textMismatch (field keyword : Value)
  | geoDistance (field location distance : Value) (unit : Option Value)
  | simpleQueryString (field keyword : Value) (escape : Option Value)
  | queryString (fields : Value) (defaultOperator keyword escape : Option Value)
  | namedConditionOr (field operatorName arguments : Value)

namespace Request

def kind : Request → Kind
  | .equals .. => .equals
  | .notEquals .. => .notEquals
  | .notIn .. => .notIn
  | .inRange .. => .inRange
  | .notInRange .. => .notInRange
  | .termsAny .. => .termsAny
  | .whereOr .. => .whereOr
  | .present .. => .present
  | .absent .. => .absent
  | .textMatch .. => .textMatch
  | .textMismatch .. => .textMismatch
  | .geoDistance .. => .geoDistance
  | .simpleQueryString .. => .simpleQueryString
  | .queryString .. => .queryString
  | .namedConditionOr .. => .namedConditionOr

/-! ## From named arguments -/

/-- The names of the arguments of a request. -/
def argumentNames : Kind → List String
  | .whereOr => ["mapping"]
  | kind => Constraint.argumentNames kind

/-- The request for a condition of a kind, with its values given by name. -/
def ofArguments (kind : Kind) (args : Arguments) : Except Fault Request := do
  args.only (argumentNames kind)
  let need := args.required
  let given := args.given?
  match kind with
  | .equals => return .equals (← need "field") (given "value") (given "boost")
  | .notEquals => return .notEquals (← need "field") (given "value") (given "boost")
  | .notIn => return .notIn (← need "field") (given "values")
  | .inRange => return .inRange (← need "field") (given "from_") (given "to")
  | .notInRange => return .notInRange (← need "field") (given "from_") (given "to")
  | .termsAny => return .termsAny (← need "field") (← need "values")
  | .whereOr => return .whereOr (← need "mapping")
  | .present => return .present (← need "field")
  | .absent => return .absent (← need "field")
  | .textMatch => return .textMatch (← need "field") (← need "keyword")
  | .textMismatch => return .textMismatch (← need "field") (← need "keyword")
  | .geoDistance =>
    return .geoDistance (← need "field") (← need "location") (← need "distance") (given "unit")
  | .simpleQueryString =>
    return .simpleQueryString (← need "field") (← need "keyword") (given "escape")
  | .queryString =>
    return .queryString (← need "fields") (given "default_operator") (given "keyword")
      (given "escape")
  | .namedConditionOr =>
    return .namedConditionOr (← need "field") (← need "operator_name") (← need "arguments")

/-! ## The constraint of a request -/

/-- A boost, or the default boost in place of one that counts as nothing.  A boost that is
left out is one. -/
def coerceBoost (defaultBoost : Value) (boost : Option Value) : Value :=
  let boost := boost.getD (.num .one)
  if boost.truthy then boost else defaultBoost

/-- The pairs of a dictionary; what counts as nothing has none. -/
def pairs (mapping : Value) : Except Fault Value :=
  match mapping with
  | .dict entries => .ok (.tuple (entries.map fun (k, v) => .tuple [k, v]))
  | v => if v.truthy then .error .noSuchAttribute else .ok (.tuple [])

/-- The fields of a query string: one field, none, or those of a sequence. -/
def fieldList (fields : Value) : Except Fault Value :=
  match fields with
  | .null => .ok (.tuple [])
  | fields =>
    match fields.text?, fields.elements? with
    | some _, _ => .ok (.tuple [fields])
    | none, some xs => .ok (.tuple xs)
    | none, none => .error .wrongType

/-- The constraint that a request stands for. -/
def constraint (defaultBoost : Value) : Request → Except Fault Constraint
  | .equals field value boost =>
    .ok (.equals field (value.getD .null) (coerceBoost defaultBoost boost))
  | .notEquals field value boost =>
    .ok (.notEquals field (value.getD .null) (coerceBoost defaultBoost boost))
  | .notIn field values => .ok (.notIn field (values.getD .null))
  | .inRange field lower upper =>
    .ok (.inRange field (lower.getD (.str "")) (upper.getD (.str "")))
  | .notInRange field lower upper =>
    .ok (.notInRange field (lower.getD (.str "")) (upper.getD (.str "")))
  | .termsAny field values => .ok (.termsAny field values)
  | .whereOr mapping => (pairs mapping).map .whereOr
  | .present field => .ok (.present field)
  | .absent field => .ok (.absent field)
  | .textMatch field keyword => .ok (.textMatch field keyword)
  | .textMismatch field keyword => .ok (.textMismatch field keyword)
  | .geoDistance field location distance unit =>
    .ok (.geoDistance field location distance (unit.getD .null))
  | .simpleQueryString field keyword escape =>
    .ok (.simpleQueryString field keyword (escape.getD (.bool false)))
  | .queryString fields defaultOperator keyword escape => do
    return .queryString (← fieldList fields) (defaultOperator.getD .null) (keyword.getD .null)
      (escape.getD (.bool false))
  | .namedConditionOr field operatorName arguments =>
    .ok (.namedConditionOr field operatorName arguments)

/-- A constraint is of the kind that was asked for. -/
theorem kind_of_constraint {b : Value} {r : Request} {c : Constraint}
    (h : r.constraint b = .ok c) : c.kind = r.kind := by
  cases r with
  | whereOr mapping =>
    cases hm : pairs mapping <;> simp [constraint, hm, Except.map] at h
    subst h; rfl
  | queryString fields defaultOperator keyword escape =>
    cases hf : fieldList fields <;>
      simp [constraint, hf, bind, Except.bind, pure, Except.pure] at h
    subst h; rfl
  | _ => cases h; rfl

end Request
end Criteria
