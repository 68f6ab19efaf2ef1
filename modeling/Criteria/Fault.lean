/-
# Faults

What can go wrong, by cause.  A fault that a caller can mend has a message; one that comes
from a value of the wrong shape has none.

An integer can have more digits than are read or written.  Where a distance is joined to its
unit, and where a template is filled, this is a fault of its own.  Messages and the lines of a
log show such an integer in full all the same: an integer that is given as a text never has so
many digits.
-/
import Criteria.Template.Fault
import Criteria.Value.Written

namespace Criteria

/-- The enumerations whose members can be asked for by value. -/
inductive Enumeration where
  | distanceUnit
  | defaultOperator
  | constraintKind
deriving DecidableEq, Repr

/-- The name of an enumeration in messages. -/
def Enumeration.name : Enumeration → String
  | .distanceUnit => "GeoDistanceUnit"
  | .defaultOperator => "DefaultOperator"
  | .constraintKind => "ConstraintKind"

inductive Fault where
  /-- A default boost that is empty or not positive. -/
  | boostNotPositive (boost : Value)
  /-- A query constructor without a name. -/
  | emptyName
  /-- Something registered as a query constructor that is none. -/
  | notAConstructor (candidate : Value)
  /-- A condition whose operator is unknown, where unknown operators are not skipped. -/
  | unsupportedOperator (name field : Value)
  | latitudeOutOfRange (lat : Number)
  | longitudeOutOfRange (lon : Number)
  /-- A value that no member of an enumeration has. -/
  | notAMember (enumeration : Enumeration) (value : Value)
  /-- A text that is no number. -/
  | notAReal (text : String)
  /-- A text that is no integer. -/
  | notAnInteger (text : String)
  /-- An integer with more digits than are read or written, with their number if it is read. -/
  | tooManyDigits (read : Option Nat)
  /-- A pair was expected and a shorter sequence came. -/
  | tooFewElements (count : Nat)
  /-- A pair was expected and a longer sequence came. -/
  | tooManyElements
  /-- A query constructor refused its arguments. -/
  | refused (reason : String)
  /-- A query type that the search engine does not have. -/
  | unknownQuery (name : Value)
  /-- A dictionary that stands for no query, because it has not exactly one entry. -/
  | notOneQuery (entries : List (Value × Value))
  /-- A score function that the search engine does not have. -/
  | unknownFunction (name : Value)
  /-- Entries of a score function that are left over next to its name. -/
  | strayEntries (entries : List (Value × Value))
  /-- A number of clauses to match that cannot be combined with other clauses. -/
  | minimumNotANumber
  /-- A template that cannot be filled. -/
  | template (e : TemplateFault)
  /-- A value of a type that the operation does not take. -/
  | wrongType
  /-- A value that lacks what the operation asks of it. -/
  | noSuchAttribute
  /-- A dictionary without the key that the operation asks for. -/
  | noSuchKey
  /-- A sequence that ends before the place that the operation asks for. -/
  | noSuchIndex
  /-- A number that is too large for the form it should be written in. -/
  | tooLarge
  /-- A text that is too long to be made. -/
  | tooLong

namespace Fault

/-- How many digits of an integer are read or written at most. -/
def digitLimit : Nat := 4300

/-- The message of a fault, for those that have one. -/
def message : Fault → Option String
  | .boostNotPositive boost => some ("default_boost 必须 > 0，当前值: " ++ boost.written)
  | .emptyName => some "查询类型名不能为空"
  | .notAConstructor candidate => some ("查询构造器必须可调用，当前值: " ++ candidate.literal)
  | .unsupportedOperator name field =>
    some ("Unsupported operator: " ++ name.literal ++ " (field=" ++ field.literal ++ ")")
  | .latitudeOutOfRange lat => some ("纬度值 " ++ lat.text ++ " 超出合法范围 [-90, 90]")
  | .longitudeOutOfRange lon => some ("经度值 " ++ lon.text ++ " 超出合法范围 [-180, 180]")
  | .notAMember enumeration value =>
    some (value.literal ++ " is not a valid " ++ enumeration.name)
  | .notAReal text => some ("could not convert string to float: " ++ (Value.str text).literal)
  | .notAnInteger text =>
    some ("invalid literal for int() with base 10: " ++
      String.ofList ((Value.str text).literal.toList.take 200))
  | .tooManyDigits read =>
    some ("Exceeds the limit (" ++ digitLimit.repr ++ " digits) for integer string conversion" ++
      (match read with
        | some count => ": value has " ++ count.repr ++ " digits"
        | none => "") ++
      "; use sys.set_int_max_str_digits() to increase the limit")
  | .tooFewElements count =>
    some ("not enough values to unpack (expected 2, got " ++ count.repr ++ ")")
  | .tooManyElements => some "too many values to unpack (expected 2)"
  | .refused reason => some reason
  | .unknownQuery name => some ("DSL class \x60" ++ name.written ++ "\x60 does not exist in query.")
  | .notOneQuery entries =>
    some ("Q() can only accept dict with a single query (\x7b\"match\": \x7b...\x7d\x7d). " ++
      "Instead it got (" ++ (Value.dict entries).literal ++ ")")
  | .unknownFunction name =>
    some ("DSL class \x60" ++ name.written ++ "\x60 does not exist in score_function.")
  | .strayEntries entries =>
    some ("SF() got an unexpected fields in the dictionary: " ++ (Value.dict entries).literal)
  | .minimumNotANumber =>
    some "Can only combine queries with positive integer values for minimum_should_match"
  | .template e => some e.message
  | .wrongType | .noSuchAttribute | .noSuchKey | .noSuchIndex | .tooLarge | .tooLong => none

end Fault
end Criteria
