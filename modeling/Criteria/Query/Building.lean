/-
# Building queries

A query is built from the name of its type and its parameters, or read from its dictionary
form.

* `Query.ofValue` reads the dictionary form.
* `Query.ofField` is the query of a type whose only parameter is a field.
* `Query.ofKeyword` is the same with a field name in which a double underscore stands for
  a dot.
-/
import Criteria.Arguments
import Criteria.Query.Scoring

namespace Criteria
namespace Query

/-! ## Reading queries -/

mutual

/-- The query with a given dictionary form, or the query of a type without parameters. -/
def ofValue : Value → Except Fault Query
  | .dict [(type, .dict parameters)] =>
    assemble type parameters (readings (shapesOf type) parameters)
  | .dict [(type, _)] => (typeName type).bind fun _ => .error .wrongType
  | .dict entries => .error (.notOneQuery entries)
  | type => assemble type [] []

/-- Several queries, up to the first fault. -/
def ofValues : List Value → Except Fault (List Query)
  | [] => .ok []
  | x :: xs => do
    let q ← ofValue x
    let qs ← ofValues xs
    return q :: qs

/-- What comes of reading the parameters that have a shape. -/
def readings (shapes : List (String × Shape)) : List (Value × Value) → Readings
  | [] => []
  | (key, v) :: rest =>
    match shape? shapes key with
    | none => readings shapes rest
    | some (name, shape) =>
      let reading := match shape, v with
        | .many, .list xs => (ofValues xs).map .many
        | .many, .tuple xs => (ofValues xs).map .many
        | .functions, .list xs => (functionsOf xs).map .functions
        | .functions, .tuple xs => (functionsOf xs).map .functions
        | .function, .dict parameters =>
          (scoreFunction [(key, v)] (readings scoringShapes parameters)).map (.functions [·])
        | .function, v => (scoreFunction [(key, v)] []).map (.functions [·])
        | .functions, v => (functionOf v).map (.functions [·])
        | .many, v => (ofValue v).map (.many [·])
        | .one, v => (ofValue v).map .one
      (name, reading) :: readings shapes rest

/-- The score function with a given dictionary form, or that of a name without parameters. -/
def functionOf : Value → Except Fault Value
  | .dict entries =>
    scoreFunction entries
      (besideReadings (readings scoringShapes entries) ++ innerReadings entries)
  | name => namedFunction name [] [] []

/-- Several score functions, up to the first fault. -/
def functionsOf : List Value → Except Fault (List Value)
  | [] => .ok []
  | x :: xs => do
    let f ← functionOf x
    let fs ← functionsOf xs
    return f :: fs

/-- What comes of reading the parameters of the functions among some entries. -/
def innerReadings : List (Value × Value) → Readings
  | [] => []
  | (key, v) :: rest =>
    match v with
    | .dict parameters =>
      if isBeside key then innerReadings rest
      else readings scoringShapes parameters ++ innerReadings rest
    | _ => innerReadings rest

end

/-! ## Queries of one parameter -/

/-- The query of a type, given as any value, with some parameters. -/
def ofParameters (type : Value) (parameters : List (Value × Value)) : Except Fault Query :=
  assemble type parameters (readings (shapesOf type) parameters)

/-- The query of a type whose only parameter is a field with its arguments. -/
def ofField (type : String) (field arguments : Value) : Except Fault Query :=
  if field.isKey then ofParameters (.str type) [(field, arguments)] else .error .wrongType

/-- The query of a type whose only parameter is a field, with everything given by name. -/
def ofArguments (args : Arguments) : Except Fault Query := do
  args.only ["name", "field", "arguments"]
  let type ← args.required "name"
  let field ← args.required "field"
  let arguments ← args.required "arguments"
  if type.isKey && field.isKey then ofParameters type [(field, arguments)]
  else .error .wrongType

/-- The keyword that gives the type of a query. -/
def typeKeyword : String := "name_or_query"

/-- The query of a type whose only parameter is a field, given by a keyword: a double
underscore in its name stands for a dot.  The keyword that says so is no field. -/
def ofKeyword (type : String) (field arguments : Value) : Except Fault Query :=
  match field.text? with
  | none => .error .wrongType
  | some name =>
    if name = typeKeyword then .error .wrongType
    else do
      let _ ← typeName (.str type)
      if name = dottingName then ofParameters (.str type) []
      else
        let _ ← parameterName field
        ofParameters (.str type) [(.str (String.ofList (dotted name.toList)), arguments)]

end Query
end Criteria
