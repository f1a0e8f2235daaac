/-!
# Boxes

Axis-parallel boxes in a coordinate plane. The first coordinate is always the easting or the
longitude. Nothing keeps the minimum below the maximum: a box is four numbers, and each operation
says what it makes of boxes that are inverted or hold a NaN.

The least and the greatest of two numbers ignore a NaN beside a number.
-/

namespace MapMarkup

structure Point where
  x : Float
  y : Float
deriving Repr, DecidableEq

def Point.isFinite (p : Point) : Bool :=
  p.x.isFinite && p.y.isFinite

/-- The lesser number; a NaN gives way to the other operand. -/
def least (a b : Float) : Float :=
  if a.isNaN then b else if b.isNaN then a else if b < a then b else a

/-- The greater number; a NaN gives way to the other operand. -/
def greatest (a b : Float) : Float :=
  if a.isNaN then b else if b.isNaN then a else if a < b then b else a

/-- A box, by its least and greatest coordinates on both axes. -/
structure Box where
  minX : Float
  minY : Float
  maxX : Float
  maxY : Float
deriving Repr, DecidableEq

namespace Box

def world : Box := ⟨-180, -90, 180, 90⟩

def width (b : Box) : Float := b.maxX - b.minX

def height (b : Box) : Float := b.maxY - b.minY

def center (b : Box) : Point :=
  ⟨(b.minX + b.maxX) / 2, (b.minY + b.maxY) / 2⟩

/-- The box has no area. A box whose extents are not numbers has none. -/
def isEmpty (b : Box) : Bool :=
  !(b.width > 0 && b.height > 0)

def isFinite (b : Box) : Bool :=
  b.minX.isFinite && b.minY.isFinite && b.maxX.isFinite && b.maxY.isFinite

def isInverted (b : Box) : Bool :=
  b.minX > b.maxX || b.minY > b.maxY

def intersects (a b : Box) : Bool :=
  a.minX < b.maxX && a.maxX > b.minX && a.minY < b.maxY && a.maxY > b.minY

/-- The part that both boxes cover, if they have more than boundary in common. -/
def intersection? (a b : Box) : Option Box :=
  if a.intersects b then
    some ⟨greatest a.minX b.minX, greatest a.minY b.minY, least a.maxX b.maxX, least a.maxY b.maxY⟩
  else none

def union (a b : Box) : Box :=
  ⟨least a.minX b.minX, least a.minY b.minY, greatest a.maxX b.maxX, greatest a.maxY b.maxY⟩

def expand (b : Box) (p : Point) : Box :=
  ⟨least b.minX p.x, least b.minY p.y, greatest b.maxX p.x, greatest b.maxY p.y⟩

def contains (b : Box) (p : Point) : Bool :=
  p.x ≥ b.minX && p.x ≤ b.maxX && p.y ≥ b.minY && p.y ≤ b.maxY

def ofPoint (p : Point) : Box := ⟨p.x, p.y, p.x, p.y⟩

/-- The least box around the points, if there are any. -/
def around? : List Point → Option Box
  | [] => none
  | p :: ps => some (ps.foldl expand (ofPoint p))

end Box

end MapMarkup
