/-
# The written form of values

In a message a value is written plainly or as a literal; the two differ for texts, which a
literal encloses in quotes, and for the units and operators.  Inside a sequence or a
dictionary every value is a literal.  The number of digits of an integer is not limited here.
-/
import Criteria.Value
import Criteria.Text.Quoted

namespace Criteria
namespace Value

/-- Items with a comma and a blank between them. -/
def commaSeparated (items : List String) : String := ", ".intercalate items

mutual

/-- A value as a literal. -/
def literal : Value → String
  | .null => "None"
  | .num n => n.text
  | .str s => String.ofList (Text.quoted s.toList)
  | .bytes bs => String.ofList (Text.quotedBytes bs)
  | .list xs => "[" ++ commaSeparated (literals xs) ++ "]"
  | .tuple [x] => "(" ++ x.literal ++ ",)"
  | .tuple xs => "(" ++ commaSeparated (literals xs) ++ ")"
  | .dict entries => "\x7b" ++ commaSeparated (entryLiterals entries) ++ "\x7d"
  | .point p => "GeoPoint(lat=" ++ p.lat.text ++ ", lon=" ++ p.lon.text ++ ")"
  | .unit u =>
    "<GeoDistanceUnit." ++ u.name ++ ": " ++ String.ofList (Text.quoted u.symbol.toList) ++ ">"
  | .operator o =>
    "<DefaultOperator." ++ o.word ++ ": " ++ String.ofList (Text.quoted o.word.toList) ++ ">"

def literals : List Value → List String
  | [] => []
  | x :: xs => x.literal :: literals xs

def entryLiterals : List (Value × Value) → List String
  | [] => []
  | (k, v) :: rest => (k.literal ++ ": " ++ v.literal) :: entryLiterals rest

end

/-- A value written plainly: a text is itself. -/
def written : Value → String
  | .str s => s
  | .unit u => "GeoDistanceUnit." ++ u.name
  | .operator o => "DefaultOperator." ++ o.word
  | v => v.literal

end Value
end Criteria
