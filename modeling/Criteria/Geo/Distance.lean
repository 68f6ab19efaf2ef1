/-
# Locations and distances in queries

A query gives a place as a dictionary of its coordinates and a distance as a text that ends
in the unit.  Places and distances that a caller has written in another way go into the
query as they are.  An integer of too many digits is not joined to a unit.
-/
import Criteria.Arguments
import Criteria.Template
import Criteria.Value.Numeral

namespace Criteria

/-- A coordinate is a number. -/
def Value.coordinate? : Value → Except Fault Number
  | .num n => .ok n
  | _ => .error .wrongType

namespace Point

/-- The place with the given coordinates; the latitude is checked first. -/
def ofValues (lat lon : Value) : Except Fault Point := do
  let lat ← lat.coordinate?
  if hlat : lat.within 90 then
    let lon ← lon.coordinate?
    if hlon : lon.within 180 then .ok ⟨lat, lon, hlat, hlon⟩
    else .error (.longitudeOutOfRange lon)
  else .error (.latitudeOutOfRange lat)

/-- The place with coordinates given by name. -/
def ofArguments (args : Arguments) : Except Fault Point := do
  args.only ["lat", "lon"]
  ofValues (← args.required "lat") (← args.required "lon")

/-- The coordinates as a dictionary. -/
def toValue (p : Point) : Value := .record [("lat", .num p.lat), ("lon", .num p.lon)]

end Point

/-- A value in the form in which a query takes a location. -/
def Value.toLocation : Value → Value
  | .point p => p.toValue
  | v => v

/-- A quantity of a unit. -/
def DistanceUnit.quantity (u : DistanceUnit) (distance : Value) : String :=
  distance.written ++ u.symbol

/-- A value in the form in which a query takes a distance.  Only a number is joined to a
unit, if it can be written.  A text may stand for the unit: it is a template for the number.
A default operator is a template without fields. -/
def Value.toDistance (distance unit : Value) : Except Fault Value :=
  match unit, distance with
  | .null, _ | _, .num (.bool _) => .ok distance
  | .unit u, .num n => n.whenWritable (.str (u.quantity distance))
  | .str s, .num n => (Template.fill s.toList n).map fun t => .str (String.ofList t)
  | .operator o, .num _ => .ok (.operator o)
  | _, .num _ => .error .noSuchAttribute
  | _, _ => .ok distance

/-- A distance with its unit, given by name; the unit may be left out. -/
def distanceOfArguments (args : Arguments) : Except Fault Value := do
  args.only ["distance", "unit"]
  (← args.required "distance").toDistance (args.withDefault "unit" .null)

theorem toDistance_unit_int (u : DistanceUnit) (n : Int) :
    (Value.int n).toDistance (.unit u) =
      (Number.int n).whenWritable (.str (n.repr ++ u.symbol)) := rfl

end Criteria
