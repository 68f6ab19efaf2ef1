/-
# Score functions

A score function says how relevant a match is.  Its dictionary form has the name of the
function with its parameters, and beside it perhaps a query or a filter, for the matches that
it is about, and a weight.  A function without a name is a mere weight.

`Query.scoreFunction` is the dictionary form in which a score function is sent.
-/
import Criteria.Query.Shape

namespace Criteria
namespace Query

/-- What stands beside the name of a score function. -/
def besideNames : List String := ["query", "filter", "weight"]

/-- The parameters of a score function that are made of queries. -/
def scoringShapes : List (String × Shape) := [("query", .one), ("filter", .one)]

/-- Whether an entry stands beside the name of a score function. -/
def isBeside (key : Value) : Bool := key.text?.any besideNames.contains

/-- What came of reading the entries beside the name of a score function, in the order in
which they count. -/
def besideReadings (readings : Readings) : Readings :=
  besideNames.filterMap fun name => (Table.get? (· == ·) name readings).map (name, ·)

/-- The name of a score function. -/
def scoringName (name : Value) : Except Fault String :=
  match name.text? with
  | some s => if scoreFunctions.contains s then .ok s else .error (.unknownFunction name)
  | none => .error (if name.isKey then .unknownFunction name else .wrongType)

/-- The names and values of the parameters of a score function.  A double underscore stands
for a dot, unless a parameter says that it does not. -/
def scoringParameters (parameters : Table Value Value) : Except Fault (Table String Value) := do
  let isDotting (key : Value) : Bool := key.text? = some dottingName
  let dotting := match parameters.find? (isDotting ·.1) with
    | none | some (_, .null) => true
    | some (_, v) => v.truthy
  let rename (name : String) : String :=
    sentName (if dotting then String.ofList (dotted name.toList) else name)
  let sent ← sentParameters "" (parameters.filter (!isDotting ·.1))
  return .ofList (· == ·) (sent.map fun (name, v) => (rename name, v))

/-- The parameters of a score function with its clauses in their dictionary form. -/
def withClauses (parameters : Table String Value) :
    Readings → Except Fault (Table String Value)
  | [] => .ok parameters
  | (name, reading) :: readings => do
    let c ← reading
    withClauses ((c.entry name).foldl (fun t e => t.put (· == ·) e.1 e.2) parameters) readings

/-- A named score function, with what stands beside its name and its parameters.  A parameter
takes the place of an entry of the same name beside it. -/
def namedFunction (name : Value) (beside parameters : List (Value × Value))
    (readings : Readings) : Except Fault Value := do
  let name ← scoringName name
  let given ← scoringParameters (.ofList Value.same (beside ++ parameters))
  let given ← withClauses given (Table.ofList (· == ·) readings)
  let (besides, own) := given.partition fun p => besideNames.contains p.1
  let body := if name = "boost_factor" then (Table.get? (· == ·) "value" own).toList
    else [.record own]
  return .record (body.map (name, ·) ++ besides)

/-- The score function of some entries: those beside its name, and one for the function itself
or none. -/
def scoreFunction (entries : List (Value × Value)) (readings : Readings) :
    Except Fault Value :=
  let beside := besideNames.filterMap fun name =>
    (Table.get? Value.same (.str name) entries).map (Value.str name, ·)
  match entries.filter (!isBeside ·.1) with
  | [] => namedFunction (.str "boost_factor") beside [] readings
  | [(name, .dict parameters)] => namedFunction name beside parameters readings
  | [(name, v)] => namedFunction name beside [(.str "value", v)] readings
  | others => .error (.strayEntries others)

end Query
end Criteria
