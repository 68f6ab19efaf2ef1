/-
# Points and units of distance

A point on the globe has a latitude between -90 and 90 and a longitude between -180 and
180; a point outside these limits cannot be built.
-/
import Criteria.Number

namespace Criteria

/-- A place on the globe, in degrees. -/
structure Point where
  lat : Number
  lon : Number
  lat_within : lat.within 90
  lon_within : lon.within 180
deriving DecidableEq

namespace Point

/-- Whether two points have the same coordinates. -/
def same (p q : Point) : Bool := p.lat.same q.lat && p.lon.same q.lon

/-- The two coordinates with a comma between them. -/
def text (p : Point) : String := p.lat.text ++ "," ++ p.lon.text

end Point

/-- The units in which a distance can be given. -/
inductive DistanceUnit where
  | metres
  | kilometres
  | miles
  | yards
deriving DecidableEq, Repr

namespace DistanceUnit

def all : List DistanceUnit := [.metres, .kilometres, .miles, .yards]

/-- The abbreviation that follows a number. -/
def symbol : DistanceUnit → String
  | .metres => "m"
  | .kilometres => "km"
  | .miles => "mi"
  | .yards => "yd"

/-- The name of the unit. -/
def name : DistanceUnit → String
  | .metres => "METERS"
  | .kilometres => "KILOMETERS"
  | .miles => "MILES"
  | .yards => "YARDS"

end DistanceUnit

end Criteria
