import MapMarkup.Projection

/-!
# Web Mercator

The Mercator projection of a sphere. It is used between the two latitudes at which the projected
world is a square.
-/

namespace MapMarkup

/-- A Mercator projection of a sphere. -/
structure Mercator where
  radius : Float := earthRadius
deriving Repr, DecidableEq

namespace Mercator

def greatestLatitude : Float := 85.0511287798066

def halfExtent (m : Mercator) : Float := pi * m.radius

/-- The image of a position; the poles have none. -/
def forward (m : Mercator) (p : Point) : Except PointFault Point :=
  if p.y.abs ≥ 90 then .error .outside
  else .ok ⟨m.radius * radians p.x, m.radius * (pi / 4 + radians p.y / 2).tan.log⟩

def inverse (m : Mercator) (p : Point) : Except PointFault Point :=
  .ok ⟨degrees (p.x / m.radius), degrees (2 * (p.y / m.radius).exp.atan - pi / 2)⟩

def projection (m : Mercator) : Projection where
  forward := m.forward
  inverse := m.inverse
  validArea := ⟨-180, -greatestLatitude, 180, greatestLatitude⟩
  pole := none

end Mercator

end MapMarkup
