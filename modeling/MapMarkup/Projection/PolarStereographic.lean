import MapMarkup.Projection
import MapMarkup.Projection.Ellipsoid

/-!
# Polar stereographic projection

The stereographic projection of an ellipsoid from the South Pole, with a scale factor at the North
Pole and an offset to its image.
-/

namespace MapMarkup

/-- The parameters of a polar stereographic projection; angles are in degrees. -/
structure PolarStereographic where
  ellipsoid : Ellipsoid
  centralMeridian : Float
  scale : Float
  falseEasting : Float
  falseNorthing : Float
  leastLatitude : Float
deriving Repr, DecidableEq

namespace PolarStereographic

def alaska : PolarStereographic where
  ellipsoid := Ellipsoid.wgs84
  centralMeridian := -150
  scale := 0.994
  falseEasting := 2000000
  falseNorthing := 2000000
  leastLatitude := 0

/-- The distance from the pole's image by which the isometric function of latitude is multiplied. -/
def unit (s : PolarStereographic) : Float :=
  let e := s.ellipsoid.eccentricity
  2 * s.ellipsoid.radius * s.scale
    / (Float.pow (1 + e) (1 + e) * Float.pow (1 - e) (1 - e)).sqrt

def forward (s : PolarStereographic) (p : Point) : Except PointFault Point :=
  let rho := s.unit * s.ellipsoid.isometric (radians p.y)
  if rho.isFinite then
    let turn := radians p.x - radians s.centralMeridian
    .ok ⟨s.falseEasting + rho * turn.sin, s.falseNorthing - rho * turn.cos⟩
  else .error .outside

def inverse (s : PolarStereographic) (p : Point) : Except PointFault Point := do
  let dx := p.x - s.falseEasting
  let dy := p.y - s.falseNorthing
  let rho := (dx * dx + dy * dy).sqrt
  let latitude := s.ellipsoid.latitudeOf (rho / s.unit)
  let meridian := radians s.centralMeridian
  let longitude := if rho == 0 then meridian else meridian + Float.atan2 dx (-dy)
  return ⟨← wrapTurns 180 (degrees longitude), degrees latitude⟩

def projection (s : PolarStereographic) : Projection where
  forward := s.forward
  inverse := s.inverse
  validArea := ⟨-180, s.leastLatitude, 180, 90⟩
  pole := some ⟨s.falseEasting, s.falseNorthing⟩

end PolarStereographic

end MapMarkup
