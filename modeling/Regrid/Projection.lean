import Regrid.Decimal.Reader
import Regrid.Decimal.Rounding
import Regrid.Value.Number

/-!
Contract: map projections between longitude and latitude in degrees and planar metres.

Owns:
- the equal-area cylindrical projection of a sphere, and the polar stereographic
  projection of an ellipsoid that is true at a given latitude;
- the reading of projection texts;
- one-directional transforms and the places their results are shown with.

A point without an image is sent to infinity in both coordinates, and one of which a
coordinate is unknown has an unknown image.
-/

namespace Regrid

/-- A figure of the earth: its equatorial radius and its eccentricity. -/
structure Ellipsoid where
  radius : Float
  eccentricity : Float

namespace Ellipsoid

/-- The ellipsoid with a radius and a reciprocal flattening. -/
def ofFlattening (radius reciprocal : Float) : Ellipsoid :=
  let flattening := 1.0 / reciprocal
  ⟨radius, Float.sqrt (2.0 * flattening - flattening * flattening)⟩

/-- The ellipsoid of satellite navigation. -/
def wgs84 : Ellipsoid := ofFlattening 6378137.0 298.257223563

def ofName? (name : String) : Option Ellipsoid :=
  if name = "WGS84" then some wgs84
  else if name = "GRS80" then some (ofFlattening 6378137.0 298.257222101)
  else if name = "sphere" then some ⟨6370997.0, 0.0⟩
  else none

end Ellipsoid

/-- A projection; angles are in degrees. -/
inductive Projection where
  | cylindrical (radius centre trueLatitude : Float)
  | polar (ellipsoid : Ellipsoid) (south : Bool) (centre trueLatitude : Float)

namespace Projection

/-- The ratio of a circle's circumference to its diameter. -/
def pi : Float := 3.141592653589793

def degree : Float := 0.017453292519943296

/-- Radians of degrees. -/
def radians (degrees : Float) : Float := degrees * degree

/-- Degrees of radians. -/
def degrees (radians : Float) : Float := radians * (1.0 / degree)

/-- The result for a point without an image. -/
def nowhere : Float × Float := (1.0 / 0.0, 1.0 / 0.0)

/-- The result for a point that is not known. -/
def unknownPlace : Float × Float := (0.0 / 0.0, 0.0 / 0.0)

def isUnknown (point : Float × Float) : Bool := point.1.isNaN || point.2.isNaN

/-- An angle in radians moved into one turn around zero. An angle that is half a turn up
to rounding stays, so that it keeps its sign. -/
def wrapAngle (angle : Float) : Float :=
  if angle.abs < pi + 1e-12 then angle
  else
    let shifted := angle + pi
    shifted - 2.0 * pi * Float.floor (shifted / (2.0 * pi)) - pi

/-- The isometric colatitude of a latitude, as a ratio. Each half of the globe has a form
of its own, which keeps all digits there. -/
def isometricRatio (eccentricity latitude : Float) : Float :=
  let (sine, cosine) := (Float.sin latitude, Float.cos latitude)
  Float.exp (eccentricity * Float.atanh (eccentricity * sine)) *
    (if 0.0 < sine then cosine / (1.0 + sine) else (1.0 - sine) / cosine)

/-- The scale of a polar projection that is true at a latitude. -/
def polarScale (eccentricity trueLatitude : Float) : Float :=
  let latitude := (radians trueLatitude).abs
  if (latitude - pi / 2.0).abs < 1e-10 then
    2.0 / Float.sqrt (Float.pow (1.0 + eccentricity) (1.0 + eccentricity) *
      Float.pow (1.0 - eccentricity) (1.0 - eccentricity))
  else
    let part := eccentricity * Float.sin latitude
    Float.cos latitude / isometricRatio eccentricity latitude / Float.sqrt (1.0 - part * part)

/-- The latitude of an isometric ratio, by repeated substitution. -/
def latitudeOfRatio (eccentricity ratio : Float) : Nat → Float → Float
  | 0, latitude => latitude
  | rounds + 1, latitude =>
    let part := eccentricity * Float.sin latitude
    let next := pi / 2.0 -
      2.0 * Float.atan (ratio * Float.pow ((1.0 - part) / (1.0 + part)) (0.5 * eccentricity))
    latitudeOfRatio eccentricity ratio rounds next

/-- Planar coordinates of a latitude and a longitude from the central meridian, both
in radians. -/
def project : Projection → Float → Float → Float × Float
  | cylindrical radius _ trueLatitude, longitude, latitude =>
    let scale := Float.cos (radians trueLatitude)
    (radius * scale * longitude, radius * Float.sin latitude / scale)
  | polar ellipsoid south _ trueLatitude, longitude, latitude =>
    let colatitude := if south then -latitude else latitude
    let distance :=
      if (colatitude - pi / 2.0).abs < 1e-15 then 0.0
      else polarScale ellipsoid.eccentricity trueLatitude *
        isometricRatio ellipsoid.eccentricity colatitude
    let y := distance * Float.cos longitude
    (ellipsoid.radius * (distance * Float.sin longitude),
      ellipsoid.radius * (if south then y else -y))

/-- The longitude from the central meridian and the latitude of planar coordinates, in
radians. -/
def unproject : Projection → Float → Float → Option (Float × Float)
  | cylindrical radius _ trueLatitude, x, y =>
    let scale := Float.cos (radians trueLatitude)
    let sine := y / radius * scale
    if 1.0 + 1e-10 < sine.abs then none
    else if 1.0 ≤ sine.abs then
      some (x / radius / scale, if sine < 0.0 then -pi / 2.0 else pi / 2.0)
    else some (x / radius / scale, Float.asin sine)
  | polar ellipsoid south _ trueLatitude, x, y =>
    let distance := Float.sqrt (x * x + y * y)
    let ratio := distance /
      (ellipsoid.radius * polarScale ellipsoid.eccentricity trueLatitude)
    let latitude := latitudeOfRatio ellipsoid.eccentricity ratio 15
      (pi / 2.0 - 2.0 * Float.atan ratio)
    let longitude :=
      if x == 0.0 && y == 0.0 then 0.0 else Float.atan2 x (if south then y else -y)
    some (longitude, if south then -latitude else latitude)

/-- The central meridian in degrees. -/
def centre : Projection → Float
  | cylindrical _ centre _ => centre
  | polar _ _ centre _ => centre

/-- A latitude in radians that is not beyond a pole. -/
def clampLatitude (latitude : Float) : Float :=
  if pi / 2.0 < latitude then pi / 2.0
  else if latitude < -pi / 2.0 then -pi / 2.0
  else latitude

/-- Planar coordinates of a longitude and a latitude in degrees. Latitudes beyond a
pole by more than rounding and longitudes far beyond a turn have no image. A longitude is
moved into one turn before and after the central meridian is taken off it. -/
def forward (projection : Projection) (point : Float × Float) : Float × Float :=
  let longitude := radians point.1
  let latitude := radians point.2
  if isUnknown point then unknownPlace
  else if latitude.abs - pi / 2.0 ≤ 1e-12 && longitude.abs ≤ 10.0 then
    projection.project (wrapAngle (wrapAngle longitude - radians projection.centre))
      (clampLatitude latitude)
  else nowhere

/-- Longitude and latitude in degrees of planar coordinates. Only the infinity of points
without an image is refused outright. -/
def backward (projection : Projection) (point : Float × Float) : Float × Float :=
  let infinite : Float := 1.0 / 0.0
  if isUnknown point then unknownPlace
  else if point.1 < infinite && point.2 < infinite then
    match projection.unproject point.1 point.2 with
    | some (longitude, latitude) =>
      (degrees (wrapAngle (longitude + radians projection.centre)), degrees latitude)
    | none => nowhere
  else nowhere

/-- The named settings of a projection text; a setting without a value is empty. -/
def settings (text : String) : List (String × String) :=
  (text.splitOn " ").filterMap fun word =>
    if word.startsWith "+" then
      match (String.ofList (word.toList.drop 1)).splitOn "=" with
      | [key] => some (key, "")
      | key :: values => some (key, "=".intercalate values)
      | [] => none
    else none

def number? (settings : List (String × String)) (key : String) (default : Float) :
    Option Float :=
  match settings.lookup key with
  | some text => Decimal.real? text
  | none => some default

/-- The figure of the earth that the settings name. -/
def ellipsoid? (settings : List (String × String)) : Option Ellipsoid :=
  match settings.lookup "R", settings.lookup "ellps" with
  | some text, _ => (Decimal.real? text).map fun radius => ⟨radius, 0.0⟩
  | none, some name => Ellipsoid.ofName? name
  | none, none => some Ellipsoid.wgs84

/-- The projection of the settings, among the projections that are known. -/
def ofSettings? (settings : List (String × String)) : Option Projection := do
  let ellipsoid ← ellipsoid? settings
  let centre ← number? settings "lon_0" 0.0
  let kind ← settings.lookup "proj"
  if kind = "cea" then
    let trueLatitude ← number? settings "lat_ts" 0.0
    if ellipsoid.eccentricity == 0.0 then
      return cylindrical ellipsoid.radius centre trueLatitude
    else none
  else if kind = "stere" then
    let pole ← number? settings "lat_0" 0.0
    if pole.abs == 90.0 then
      return polar ellipsoid (pole < 0.0) centre (← number? settings "lat_ts" pole)
    else none
  else none

/-- Registered systems of heights, which have no longitude and latitude. -/
def heightSystems : List String :=
  ["EPSG:3855", "EPSG:5701", "EPSG:5703", "EPSG:5773", "EPSG:5798"]

def read (text : String) : Except Error Projection :=
  if (Text.trim text.toList).isEmpty then .error .projectionEmpty
  else if heightSystems.contains text then .error (.noGeodeticSystem text)
  else
    match ofSettings? (settings text) with
    | some projection => .ok projection
    | none => .error .coordinateSystemUnknown

end Projection

/-- The direction of a transform. -/
inductive TransformDirection where
  | toPlane
  | toGlobe
  deriving DecidableEq, Repr

namespace TransformDirection

def name : TransformDirection → String
  | toPlane => "LL2XY"
  | toGlobe => "XY2LL"

/-- Reads a direction, which has to be spelt exactly. -/
def read (text : String) : Except Error TransformDirection :=
  if text = toPlane.name then .ok .toPlane
  else if text = toGlobe.name then .ok .toGlobe
  else .error .wordUnknown

end TransformDirection

/-- A transform in one direction, with the text it was made from. -/
structure MapTransform where
  text : String
  direction : TransformDirection
  projection : Projection

namespace MapTransform

/-- The transform of a projection text in one direction. An absent text is an empty one,
and no other value is one. -/
def create (text : Value) (direction : TransformDirection) : Except Error MapTransform := do
  if !text.isKey then throw Error.wrongType
  match text.orEmpty with
  | .text text => return ⟨text, direction, ← Projection.read text⟩
  | _ => throw Error.fieldUnknown

def apply (transform : MapTransform) (point : Float × Float) : Float × Float :=
  match transform.direction with
  | .toPlane => transform.projection.forward point
  | .toGlobe => transform.projection.backward point

/-- The places that images are shown with: a tenth of a millimetre on the plane, and
about a centimetre on the globe. -/
def places (transform : MapTransform) : Nat :=
  match transform.direction with
  | .toPlane => 4
  | .toGlobe => 7

def shownImage (transform : MapTransform) (point : Float × Float) : Float × Float :=
  let (x, y) := transform.apply point
  (Decimal.roundPlaces transform.places x, Decimal.roundPlaces transform.places y)

def description (transform : MapTransform) : String :=
  "Proj2(" ++ Text.quote transform.text ++ ", " ++ transform.direction.name ++ ")"

end MapTransform

end Regrid
