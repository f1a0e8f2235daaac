import MapMarkup.TiledCrs

/-!
# Zoom ranges

The zoom levels at which a layer is offered. A style draws between two scale denominators; the
greater one is the coarsest scale and so bounds the zoom from below, the lesser one bounds it from
above. Whatever the denominators are, the range is ordered and within the levels of the pyramid.
-/

namespace MapMarkup

/-- Scale denominators between which a style draws; a missing one is no bound. -/
structure ScaleRange where
  minDenominator : Option Float
  maxDenominator : Option Float
deriving Repr, DecidableEq

def ScaleRange.isUnbounded (r : ScaleRange) : Bool :=
  r.minDenominator.isNone && r.maxDenominator.isNone

/-- The zoom levels from `min` to `max`, both included. -/
structure ZoomRange where
  min : Nat
  max : Nat
deriving Repr, DecidableEq

namespace ZoomRange

def native : ZoomRange := ⟨0, deepestZoom⟩

def contains (r : ZoomRange) (zoom : Nat) : Bool :=
  r.min ≤ zoom && zoom ≤ r.max

/-- The level of the pyramid nearest to a number. -/
def clampLevel (z : Int) : Nat :=
  Nat.min z.toNat deepestZoom

/-- The range between two levels in any order; a missing one is the outermost on its side. -/
def clamp (min max : Option Int) : ZoomRange :=
  let low := (min.map clampLevel).getD 0
  let high := (max.map clampLevel).getD deepestZoom
  ⟨Nat.min low high, Nat.max low high⟩

/-- The range between the levels of two scale denominators. -/
def ofLevels (level : Float → Nat) (r : ScaleRange) : ZoomRange :=
  clamp (r.maxDenominator.map fun d => (level d : Int))
    (r.minDenominator.map fun d => (level d : Int))

def ofScales (t : Tcrs) (scales : Option ScaleRange) : ZoomRange :=
  match scales with
  | none => native
  | some r => ofLevels t.zoomForScale r

end ZoomRange

end MapMarkup
