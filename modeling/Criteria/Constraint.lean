/-
# Constraints

A constraint is one condition on the documents to be found, with the values that its kind
needs.  Nothing is checked when a constraint is made; a value that the search engine will
not take stays in it until then.
-/
import Criteria.Arguments
import Criteria.Kind

namespace Criteria

inductive Constraint where
  | equals (field value boost : Value)
  | notEquals (field value boost : Value)
  | notIn (field values : Value)
  | inRange (field lower upper : Value)
  | notInRange (field lower upper : Value)
  | termsAny (field values : Value)
  /-- A sequence of pairs of a field and its values, of which one has to match. -/
  | whereOr (terms : Value)
  | present (field : Value)
  | absent (field : Value)
  | textMatch (field keyword : Value)
  | textMismatch (field keyword : Value)
  | geoDistance (field location distance unit : Value)
  | simpleQueryString (field keyword escape : Value)
  | queryString (fields defaultOperator keyword escape : Value)
  /-- A condition whose operator is looked up by name when it is compiled. -/
  | namedConditionOr (field operatorName arguments : Value)

namespace Constraint

def kind : Constraint → Kind
  | .equals .. => .equals
  | .notEquals .. => .notEquals
  | .notIn .. => .notIn
  | .inRange .. => .inRange
  | .notInRange .. => .notInRange
  | .termsAny .. => .termsAny
  | .whereOr .. => .whereOr
  | .present .. => .present
  | .absent .. => .absent
  | .textMatch .. => .textMatch
  | .textMismatch .. => .textMismatch
  | .geoDistance .. => .geoDistance
  | .simpleQueryString .. => .simpleQueryString
  | .queryString .. => .queryString
  | .namedConditionOr .. => .namedConditionOr

/-- The values of a constraint by name. -/
def arguments : Constraint → Arguments
  | .equals field value boost | .notEquals field value boost =>
    [("field", field), ("value", value), ("boost", boost)]
  | .notIn field values | .termsAny field values => [("field", field), ("values", values)]
  | .inRange field lower upper | .notInRange field lower upper =>
    [("field", field), ("from_", lower), ("to", upper)]
  | .whereOr terms => [("terms", terms)]
  | .present field | .absent field => [("field", field)]
  | .textMatch field keyword | .textMismatch field keyword =>
    [("field", field), ("keyword", keyword)]
  | .geoDistance field location distance unit =>
    [("field", field), ("location", location), ("distance", distance), ("unit", unit)]
  | .simpleQueryString field keyword escape =>
    [("field", field), ("keyword", keyword), ("escape", escape)]
  | .queryString fields defaultOperator keyword escape =>
    [("fields", fields), ("default_operator", defaultOperator), ("keyword", keyword),
      ("escape", escape)]
  | .namedConditionOr field operatorName arguments =>
    [("field", field), ("operator_name", operatorName), ("arguments", arguments)]

/-- The names that the values of a kind have. -/
def argumentNames : Kind → List String
  | .equals | .notEquals => ["field", "value", "boost"]
  | .notIn | .termsAny => ["field", "values"]
  | .inRange | .notInRange => ["field", "from_", "to"]
  | .whereOr => ["terms"]
  | .present | .absent => ["field"]
  | .textMatch | .textMismatch => ["field", "keyword"]
  | .geoDistance => ["field", "location", "distance", "unit"]
  | .simpleQueryString => ["field", "keyword", "escape"]
  | .queryString => ["fields", "default_operator", "keyword", "escape"]
  | .namedConditionOr => ["field", "operator_name", "arguments"]

/-- The constraint of a kind with values given by name.  Only the field and the name of an
operator have no default. -/
def ofArguments (kind : Kind) (args : Arguments) : Except Fault Constraint := do
  args.only (argumentNames kind)
  let field := args.required "field"
  let orNull (name : String) := args.withDefault name .null
  let orOpen (name : String) := args.withDefault name (.str "")
  match kind with
  | .equals => return .equals (← field) (orNull "value") (args.withDefault "boost" (.num .one))
  | .notEquals =>
    return .notEquals (← field) (orNull "value") (args.withDefault "boost" (.num .one))
  | .notIn => return .notIn (← field) (orNull "values")
  | .inRange => return .inRange (← field) (orOpen "from_") (orOpen "to")
  | .notInRange => return .notInRange (← field) (orOpen "from_") (orOpen "to")
  | .termsAny => return .termsAny (← field) (orNull "values")
  | .whereOr => return .whereOr (args.withDefault "terms" (.tuple []))
  | .present => return .present (← field)
  | .absent => return .absent (← field)
  | .textMatch => return .textMatch (← field) (orNull "keyword")
  | .textMismatch => return .textMismatch (← field) (orNull "keyword")
  | .geoDistance =>
    return .geoDistance (← field) (orNull "location") (orNull "distance") (orNull "unit")
  | .simpleQueryString =>
    return .simpleQueryString (← field) (orNull "keyword")
      (args.withDefault "escape" (.bool false))
  | .queryString =>
    return .queryString (args.withDefault "fields" (.tuple [])) (orNull "default_operator")
      (orNull "keyword") (args.withDefault "escape" (.bool false))
  | .namedConditionOr =>
    return .namedConditionOr (← field) (← args.required "operator_name") (orNull "arguments")

theorem map_fst_arguments (c : Constraint) : c.arguments.map Prod.fst = argumentNames c.kind := by
  cases c <;> rfl

end Constraint

/-- What is offered to a store as a ready constraint. -/
inductive Offer where
  /-- A constraint of a kind with its values. -/
  | constraint (kind : Kind) (args : Arguments)
  /-- A constraint that is of no kind, with some values. -/
  | kindless (args : Arguments)
  /-- A value that is no constraint. -/
  | other (v : Value)

/-- The offer of a constraint whose kind is given by its label; an empty label is no kind. -/
def Offer.ofLabel (label : Value) (args : Arguments) : Offer :=
  match Kind.ofValue label with
  | .ok kind => .constraint kind args
  | .error _ => if label.truthy then .other label else .kindless args

/-- The constraint that is offered.  A constraint without a kind has no values, and like a
value that is no constraint it cannot be stored. -/
def Offer.constraint? : Offer → Except Fault Constraint
  | .constraint kind args => Constraint.ofArguments kind args
  | .kindless args => .error (if args.isEmpty then .noSuchAttribute else .wrongType)
  | .other _ => .error .noSuchAttribute

end Criteria
