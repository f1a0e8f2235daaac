import MapMarkup.Projection.Lambert
import MapMarkup.Projection.Mercator
import MapMarkup.Projection.PolarStereographic

/-!
# Reprojection

Points and boxes taken from one reference system to another. A box is taken to degrees by a grid of
points over it, clipped to the region in which the target is used, and taken on by points along the
edges of what is left.
-/

namespace MapMarkup

def Crs.projection : Crs → Projection
  | crs84 | epsg4326 => Projection.geographic
  | epsg3857 => Mercator.projection {}
  | epsg5936 => PolarStereographic.alaska.projection
  | epsg3978 => Lambert.canadaAtlas.projection

/-- Why a point or box has no counterpart in another reference system. -/
inductive ProjectionError where
  /-- The box and the region in which the target is used have no area in common. -/
  | unsupportedTransform (source target : Crs)
  /-- The point has no finite image. -/
  | pointOutOfDomain (point : Point) (source target : Crs)
  /-- Wrapping a longitude comes to no end. -/
  | endlessWrapping (source target : Crs)
deriving Repr, DecidableEq

def ProjectionError.message : ProjectionError → String
  | unsupportedTransform source target =>
    "Cannot transform bounds from " ++ source.code ++ " to " ++ target.code
      ++ ": no overlap with the target's valid area"
  | pointOutOfDomain point source target =>
    "Point (" ++ Decimal.text point.x ++ ", " ++ Decimal.text point.y
      ++ ") cannot be transformed from " ++ source.code ++ " to " ++ target.code
  | endlessWrapping source target =>
    "A longitude cannot be wrapped between " ++ source.code ++ " and " ++ target.code

def transformPoint (p : Point) (source target : Crs) : Except ProjectionError Point :=
  if source.sameSpace target then .ok p
  else
    match source.projection.inverse p >>= target.projection.forward with
    | .ok q => if q.isFinite then .ok q else .error (.pointOutOfDomain p source target)
    | .error .outside => .error (.pointOutOfDomain p source target)
    | .error .endless => .error (.endlessWrapping source target)

/-- Something that takes boxes from one reference system to another. -/
abbrev Projector := Box → Crs → Crs → Except ProjectionError Box

structure Sampling where
  /-- Points along each axis of the grid over the source box. -/
  grid : Nat := 32
  /-- Points along each edge of the clipped box. -/
  edge : Nat := 9
  two_le_grid : 2 ≤ grid := by omega
  two_le_edge : 2 ≤ edge := by omega

namespace Sampling

def usual : Sampling := {}

/-- The usual sampling with another grid, of at least two points along each axis. -/
def ofGrid (grid : Nat) : Sampling := { grid := max grid 2 }

/-- The sampling with at least two points along each edge. -/
def withEdge (s : Sampling) (edge : Nat) : Sampling :=
  { s with edge := max edge 2, two_le_edge := by omega }

def fractions (n : Nat) : List Float :=
  (List.range n).map fun i => Float.ofNat i / Float.ofNat (n - 1)

def pointAt (b : Box) (fx fy : Float) : Point :=
  ⟨b.minX + fx * b.width, b.minY + fy * b.height⟩

def gridPoints (s : Sampling) (b : Box) : List Point :=
  (fractions s.grid).flatMap fun fx => (fractions s.grid).map fun fy => pointAt b fx fy

def edgePoints (s : Sampling) (b : Box) : List Point :=
  (fractions s.edge).flatMap fun f =>
    let p := pointAt b f f
    [⟨p.x, b.minY⟩, ⟨p.x, b.maxY⟩, ⟨b.minX, p.y⟩, ⟨b.maxX, p.y⟩]

/-- The finite images of points. One point whose longitude cannot be wrapped spoils them all. -/
def finiteImages (f : Point → Except PointFault Point) (points : List Point) :
    Except PointFault (List Point) :=
  let images := points.map f
  let isEndless : Except PointFault Point → Bool
    | .error .endless => true
    | _ => false
  if images.any isEndless then .error .endless
  else .ok (images.filterMap fun
    | .ok q => if q.isFinite then some q else none
    | .error _ => none)

/-- A box around the pole's image covers every meridian up to the pole. -/
def widenAtPole (source : Projection) (b geographic : Box) : Box :=
  match source.pole with
  | some pole => if b.contains pole then ⟨-180, geographic.minY, 180, 90⟩ else geographic
  | none => geographic

def toGeographic (s : Sampling) (source : Projection) (b : Box) :
    Except PointFault (Option Box) := do
  let points ← finiteImages source.inverse (s.gridPoints b)
  return (Box.around? points).bind fun geographic =>
    (widenAtPole source b geographic).intersection? Box.world

/-- The part of a box in degrees that lies in the region in which the target is used. It may be
without area. -/
def clippedArea (s : Sampling) (source target : Projection) (b : Box) :
    Except PointFault (Option Box) :=
  (s.toGeographic source b).map fun geographic =>
    geographic.bind fun g => g.intersection? target.validArea

/-- The box around the finite images of points. It is `outside` if there are none. -/
def frame (f : Point → Except PointFault Point) (points : List Point) : Except PointFault Box := do
  match Box.around? (← finiteImages f points) with
  | some box => .ok box
  | none => .error .outside

/-- The box of one projection in another; a box that has no part with area in the region in which
the target is used is `outside`. -/
def reproject (s : Sampling) (source target : Projection) (b : Box) :
    Except PointFault Box := do
  let clipped ← s.clippedArea source target b
  match clipped.filter fun g => !g.isEmpty with
  | none => .error .outside
  | some g => frame target.forward (s.edgePoints g)

/-- The projector of a sampling, by any projections of the reference systems. -/
def projectorBy (s : Sampling) (projection : Crs → Projection) : Projector :=
  fun b source target =>
    if source.sameSpace target then .ok b
    else
      match s.reproject (projection source) (projection target) b with
      | .ok box => .ok box
      | .error .outside => .error (.unsupportedTransform source target)
      | .error .endless => .error (.endlessWrapping source target)

def projector (s : Sampling) : Projector := s.projectorBy Crs.projection

end Sampling

end MapMarkup
