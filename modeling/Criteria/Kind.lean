/-
# Kinds of constraints

There are fifteen kinds of constraints.  Their order is the order in which constraints are
compiled.
-/
import Criteria.Enumerated

namespace Criteria

inductive Kind where
  | equals
  | notEquals
  | notIn
  | inRange
  | notInRange
  | termsAny
  | whereOr
  | present
  | absent
  | textMatch
  | textMismatch
  | geoDistance
  | simpleQueryString
  | queryString
  | namedConditionOr
deriving DecidableEq, Repr

namespace Kind

/-- All kinds, in order. -/
def all : List Kind := [
  .equals, .notEquals, .notIn, .inRange, .notInRange, .termsAny, .whereOr, .present, .absent,
  .textMatch, .textMismatch, .geoDistance, .simpleQueryString, .queryString,
  .namedConditionOr]

/-- The value of a kind as a member of its enumeration. -/
def label : Kind → String
  | .equals => "equals"
  | .notEquals => "not_equals"
  | .notIn => "not_in"
  | .inRange => "in_range"
  | .notInRange => "not_in_range"
  | .termsAny => "terms_any"
  | .whereOr => "where_or"
  | .present => "exists"
  | .absent => "not_exists"
  | .textMatch => "match"
  | .textMismatch => "mismatch"
  | .geoDistance => "geo_distance"
  | .simpleQueryString => "simple_query_string"
  | .queryString => "query_string"
  | .namedConditionOr => "named_condition_or"

/-- The name of a kind as a member of its enumeration: its label in capitals. -/
def name (k : Kind) : String := String.ofList (k.label.toList.map Char.toUpper)

/-- The kind with a given label. -/
def ofValue (v : Value) : Except Fault Kind := Enumeration.constraintKind.member all label v

theorem mem_all (k : Kind) : k ∈ all := by cases k <;> decide

theorem nodup_all : all.Nodup := by decide

end Kind
end Criteria
