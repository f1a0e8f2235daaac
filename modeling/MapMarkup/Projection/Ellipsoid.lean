import MapMarkup.TiledCrs

/-!
# Ellipsoids

Reference ellipsoids and the two functions of latitude that conformal projections are made of:
`parallel`, the radius of a parallel in units of the equator, and `isometric`, which
`latitudeOf` inverts by iteration.
-/

namespace MapMarkup

structure Ellipsoid where
  radius : Float
  flattening : Float
deriving Repr, DecidableEq

namespace Ellipsoid

def wgs84 : Ellipsoid := ⟨6378137, 1 / 298.257223563⟩

def grs80 : Ellipsoid := ⟨6378137, 1 / 298.257222101⟩

def eccentricitySquared (e : Ellipsoid) : Float :=
  e.flattening * (2 - e.flattening)

def eccentricity (e : Ellipsoid) : Float :=
  e.eccentricitySquared.sqrt

/-- The radius of the parallel at a latitude in radians, in units of the equatorial radius. -/
def parallel (e : Ellipsoid) (latitude : Float) : Float :=
  let s := latitude.sin
  latitude.cos / (1 - e.eccentricitySquared * s * s).sqrt

/-- How much the ellipsoid differs from a sphere at a latitude whose sine, times the eccentricity,
is `es`. -/
def correction (e : Ellipsoid) (es : Float) : Float :=
  Float.pow ((1 - es) / (1 + es)) (e.eccentricity / 2)

/-- The function of latitude that falls to zero at the North Pole along a conformal projection. -/
def isometric (e : Ellipsoid) (latitude : Float) : Float :=
  (pi / 4 - latitude / 2).tan / e.correction (e.eccentricity * latitude.sin)

/-- The next approximation to the latitude at which `isometric` is `t`. -/
def refineLatitude (e : Ellipsoid) (t latitude : Float) : Float :=
  pi / 2 - 2 * (t * e.correction (e.eccentricity * latitude.sin)).atan

/-- Approximations until two differ by less than `1e-12`, at most as many as given. -/
def refineLatitudes (e : Ellipsoid) (t : Float) : Nat → Float → Float
  | 0, latitude => latitude
  | steps + 1, latitude =>
    let next := e.refineLatitude t latitude
    if (next - latitude).abs < 1e-12 then next else e.refineLatitudes t steps next

def latitudeOf (e : Ellipsoid) (t : Float) : Float :=
  e.refineLatitudes t 15 (pi / 2 - 2 * t.atan)

end Ellipsoid

end MapMarkup
