import MapMarkup.Projection
import MapMarkup.Projection.Ellipsoid

/-!
# Lambert conformal projection

The conformal projection of an ellipsoid onto a cone that cuts it at two parallels, or touches it at
one when both are the same.
-/

namespace MapMarkup

/-- The parameters of a Lambert conformal projection; angles are in degrees. -/
structure Lambert where
  ellipsoid : Ellipsoid
  originLatitude : Float
  centralMeridian : Float
  firstParallel : Float
  secondParallel : Float
  falseEasting : Float
  falseNorthing : Float
  leastLatitude : Float
deriving Repr, DecidableEq

namespace Lambert

def canadaAtlas : Lambert where
  ellipsoid := Ellipsoid.grs80
  originLatitude := 49
  centralMeridian := -95
  firstParallel := 49
  secondParallel := 77
  falseEasting := 0
  falseNorthing := 0
  leastLatitude := 19

/-- How much of a full turn the unrolled cone makes. -/
def cone (l : Lambert) : Float :=
  let first := radians l.firstParallel
  let second := radians l.secondParallel
  if (first - second).abs < 1e-10 then first.sin
  else
    ((l.ellipsoid.parallel first).log - (l.ellipsoid.parallel second).log)
      / ((l.ellipsoid.isometric first).log - (l.ellipsoid.isometric second).log)

/-- The distance from the tip of the cone, in units of the equatorial radius, by which a power of
the isometric function of latitude is multiplied. -/
def unit (l : Lambert) : Float :=
  let first := radians l.firstParallel
  l.ellipsoid.parallel first / (l.cone * Float.pow (l.ellipsoid.isometric first) l.cone)

/-- The distance of a latitude in degrees from the tip of the cone. -/
def distance (l : Lambert) (latitude : Float) : Float :=
  l.ellipsoid.radius * l.unit * Float.pow (l.ellipsoid.isometric (radians latitude)) l.cone

/-- The distance of the false origin from the tip of the cone. -/
def originDistance (l : Lambert) : Float := l.distance l.originLatitude

def forward (l : Lambert) (p : Point) : Except PointFault Point := do
  let turn ← wrapTurns pi (radians p.x - radians l.centralMeridian)
  let rho := l.distance p.y
  if rho.isFinite then
    let theta := l.cone * turn
    return ⟨l.falseEasting + rho * theta.sin,
      l.falseNorthing + l.originDistance - rho * theta.cos⟩
  else .error .outside

def inverse (l : Lambert) (p : Point) : Except PointFault Point := do
  let dx := p.x - l.falseEasting
  let dy := l.originDistance - (p.y - l.falseNorthing)
  let rho := (dx * dx + dy * dy).sqrt
  let (rho, theta) :=
    if l.cone < 0 then (-rho, Float.atan2 (-dx) (-dy)) else (rho, Float.atan2 dx dy)
  let t := Float.pow (rho / (l.ellipsoid.radius * l.unit)) (1 / l.cone)
  let latitude := degrees (l.ellipsoid.latitudeOf t)
  let longitude ← wrapTurns 180 (degrees (theta / l.cone + radians l.centralMeridian))
  if latitude.isFinite && longitude.isFinite then return ⟨longitude, latitude⟩
  else .error .outside

def projection (l : Lambert) : Projection where
  forward := l.forward
  inverse := l.inverse
  validArea := ⟨-180, l.leastLatitude, 180, 90⟩
  pole := some ⟨l.falseEasting, l.falseNorthing + l.originDistance⟩

end Lambert

end MapMarkup
