/-
# Named arguments

A call brings its arguments by name.  It fails when an argument is missing that has no
default, or when one comes that the operation does not know.
-/
import Criteria.Fault

namespace Criteria

/-- Arguments by name; no name stands twice. -/
abbrev Arguments := Table String Value

namespace Arguments

/-- The argument of a name, if it was given. -/
def given? (args : Arguments) (name : String) : Option Value := Table.get? (· == ·) name args

/-- The argument of a name that has no default. -/
def required (args : Arguments) (name : String) : Except Fault Value :=
  match args.given? name with
  | some v => .ok v
  | none => .error .wrongType

/-- The argument of a name, or its default. -/
def withDefault (args : Arguments) (name : String) (default : Value) : Value :=
  (args.given? name).getD default

/-- Refuse arguments that are not among the known names. -/
def only (args : Arguments) (known : List String) : Except Fault Unit :=
  if args.all fun a => known.contains a.1 then .ok () else .error .wrongType

end Arguments
end Criteria
