/-
# Query constructors

A query constructor makes a query from a field and some arguments.  It may fail, and it may
decline, in which case there is no query.
-/
import Criteria.Query.Building

namespace Criteria

/-- The constructors that are there from the start: each makes the query of one type. -/
inductive Standard where
  | range
  | terms
  | term
  | textMatch
  | leading
  | wildcard
deriving DecidableEq, Repr

namespace Standard

def all : List Standard := [.range, .terms, .term, .textMatch, .leading, .wildcard]

/-- The type of query that it makes. -/
def type : Standard → String
  | .range => "range"
  | .terms => "terms"
  | .term => "term"
  | .textMatch => "match"
  | .leading => "prefix"
  | .wildcard => "wildcard"

/-- The name under which it is registered. -/
def display : Standard → String
  | .range => "Range"
  | .terms => "Terms"
  | .term => "Term"
  | .textMatch => "Match"
  | .leading => "Prefix"
  | .wildcard => "Wildcard"

/-- The query that it makes. -/
def build (s : Standard) (field arguments : Value) : Except Fault Query :=
  Query.ofField s.type field arguments

/-- The query that it makes of a field and arguments given by name. -/
def ofArguments (s : Standard) (args : Arguments) : Except Fault Query := do
  args.only ["field", "arguments"]
  s.build (← args.required "field") (← args.required "arguments")

end Standard

inductive Constructor where
  | standard (s : Standard)
  /-- The query of a type whose only parameter is the field. -/
  | field (type : String)
  /-- The same, with dots for the double underscores in the name of the field. -/
  | keyword (type : String)
  /-- A range that starts at the arguments. -/
  | atLeast
  /-- The query that matches everything. -/
  | everything
  /-- A constructor that always declines. -/
  | declining
  /-- A constructor that refuses all arguments, for a reason. -/
  | refusing (reason : String)
  /-- Any other constructor. -/
  | custom (build : Value → Value → Except Fault (Option Query))

namespace Constructor

/-- The query of a constructor, if it does not decline. -/
def build : Constructor → Value → Value → Except Fault (Option Query)
  | .standard s, f, a => (s.build f a).map some
  | .field type, f, a => (Query.ofField type f a).map some
  | .keyword type, f, a => (Query.ofKeyword type f a).map some
  | .atLeast, f, a => (Query.ofKeyword "range" f (.record [("gte", a)])).map some
  | .everything, _, _ => .ok (some (.leaf "match_all" []))
  | .declining, _, _ => .ok none
  | .refusing reason, _, _ => .error (.refused reason)
  | .custom build, f, a => build f a

end Constructor
end Criteria
