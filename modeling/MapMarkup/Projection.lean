import MapMarkup.TiledCrs

/-!
# Projections

A projection takes positions in degrees to coordinates in a plane and back. A position may have no
image. Some projections first bring a longitude into one turn around the Earth by adding or taking
away whole turns; when a longitude is so large that a turn no longer changes it, that would go on
for ever, and the projection answers `endless` instead.
-/

namespace MapMarkup

inductive PointFault where
  | outside
  | endless
deriving Repr, DecidableEq

/-- A projection between positions in degrees, longitude first, and coordinates in a plane. -/
structure Projection where
  forward : Point → Except PointFault Point
  inverse : Point → Except PointFault Point
  validArea : Box
  pole : Option Point

def Projection.geographic : Projection where
  forward := .ok
  inverse := .ok
  validArea := Box.world
  pole := none

def radians (degrees : Float) : Float := degrees * (pi / 180)

def degrees (radians : Float) : Float := radians * (180 / pi)

/-- Takes whole turns away until at most half a turn is left. There is no answer when a turn no
longer makes the angle smaller. -/
def lowerTurns (half angle : Float) : Option Float :=
  if angle > half then
    let next := angle - 2 * half
    if next > half then
      if next.toBits.toNat < angle.toBits.toNat then lowerTurns half next else none
    else some next
  else some angle
termination_by angle.toBits.toNat

/-- Adds whole turns until at most half a negative turn is left. There is no answer when a turn no
longer makes the angle greater. -/
def raiseTurns (half angle : Float) : Option Float :=
  if angle < -half then
    let next := angle + 2 * half
    if next < -half then
      if next.toBits.toNat < angle.toBits.toNat then raiseTurns half next else none
    else some next
  else some angle
termination_by angle.toBits.toNat

def wrapTurns (half angle : Float) : Except PointFault Float :=
  match (lowerTurns half angle).bind (raiseTurns half) with
  | some a => .ok a
  | none => .error .endless

end MapMarkup
