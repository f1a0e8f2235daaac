import MapMarkup.Crs
import MapMarkup.Decimal.Shortest

/-!
# Tiled coordinate reference systems

A tiled coordinate reference system pairs a reference system with a pyramid of tiles: an origin at
the top left, tiles of 256 pixels, and for each of the zoom levels 0 to 21 the units that a pixel
spans. There are four of them, and their numbers never change (`grid`).

Two searches go over the levels. `nearestLevel` finds the level whose scale is nearest to a given
one, and `fittingLevel` the deepest level at which a region still fits a viewport. Both are written
for any type of numbers, and the first for any logarithm.
-/

namespace MapMarkup

/-- A tiled coordinate reference system. -/
inductive Tcrs where
  | wgs84
  | osmTile
  | cbmTile
  | apsTile
deriving Repr, DecidableEq

namespace Tcrs

/-- Every tiled system, in the order in which the service lists them. -/
def all : List Tcrs := [wgs84, osmTile, cbmTile, apsTile]

def name : Tcrs → String
  | wgs84 => "WGS84"
  | osmTile => "OSMTILE"
  | cbmTile => "CBMTILE"
  | apsTile => "APSTILE"

/-- What may stand before the name of a tiled system in a request. -/
def codeStart : String := "MapML:"

def code (t : Tcrs) : String := codeStart ++ t.name

/-- A text without `codeStart`, whatever the case of its letters. -/
def withoutCodeStart (cs : List Char) : List Char :=
  if (cs.take 6).map Char.toLower = codeStart.toList.map Char.toLower then cs.drop 6 else cs

/-- The tiled system that a text names, with or without `codeStart` and in any case. -/
def ofText? (text : String) : Option Tcrs :=
  let bare := String.ofList (withoutCodeStart (Text.trimChars text.toList))
  all.find? fun t => Text.sameLetters t.name bare

def crs : Tcrs → Crs
  | wgs84 => .crs84
  | osmTile => .epsg3857
  | cbmTile => .epsg3978
  | apsTile => .epsg5936

def ofCrs? (crs : Crs) : Option Tcrs :=
  all.find? fun t => t.crs.sameSpace crs

end Tcrs

def deepestZoom : Nat := 21

def tileSize : Nat := 256

def pixelSize : Float := 0.00028

structure Grid where
  /-- The region that the tiles are made for. -/
  bounds : Box
  /-- The top left corner of the first tile. -/
  origin : Point
  /-- Units per pixel at each zoom level. -/
  resolutions : Vector Float 22
  /-- Metres per unit. -/
  metersPerUnit : Float

def halving (base : Float) : Vector Float 22 :=
  Vector.ofFn fun z => base / Float.ofNat (Nat.pow 2 z.val)

def mercatorExtent : Float := 20037508.342789244

def cbmResolutions : Vector Float 22 :=
  #v[38364.660062653464, 22489.62831258996, 13229.193125052918, 7937.5158750317505,
    4630.2175937685215, 2645.8386250105837, 1587.5031750063501, 926.0435187537042,
    529.1677250021168, 317.50063500127004, 185.20870375074085, 111.12522225044451,
    66.1459656252646, 38.36466006265346, 22.48962831258996, 13.229193125052918,
    7.9375158750317505, 4.6302175937685215, 2.6458386250105836, 1.5875031750063502,
    0.92604351875370428, 0.52916772500211673]

def pi : Float := 3.141592653589793

def earthRadius : Float := 6378137

def Tcrs.grid : Tcrs → Grid
  | .wgs84 =>
    { bounds := Box.world
      origin := ⟨-180, 90⟩
      resolutions := halving 0.703125
      metersPerUnit := 2 * pi * earthRadius / 360 }
  | .osmTile =>
    { bounds := ⟨-mercatorExtent, -mercatorExtent, mercatorExtent, mercatorExtent⟩
      origin := ⟨-mercatorExtent, mercatorExtent⟩
      resolutions := halving 156543.03392804097
      metersPerUnit := 1 }
  | .cbmTile =>
    { bounds := ⟨-34655800, -39310000, 10000000, 35765600⟩
      origin := ⟨-34655800, 39310000⟩
      resolutions := cbmResolutions
      metersPerUnit := 1 }
  | .apsTile =>
    { bounds := ⟨-28567784.109255, -28567784.109255, 32567784.109255, 32567784.109255⟩
      origin := ⟨-28567784.109255, 32567784.109255⟩
      resolutions := halving 238810.813354
      metersPerUnit := 1 }

def Tcrs.bounds (t : Tcrs) : Box := t.grid.bounds

/-- Units per pixel at a zoom level; past the deepest level, those of the deepest. -/
def Tcrs.resolution (t : Tcrs) (zoom : Nat) : Float :=
  have : min zoom 21 < 22 := by omega
  t.grid.resolutions[min zoom 21]

def Tcrs.scaleDenominator (t : Tcrs) (zoom : Nat) : Float :=
  t.resolution zoom * t.grid.metersPerUnit / pixelSize

def Tcrs.coordinateKind (t : Tcrs) : String :=
  if t.crs.isGeographic then "gcrs" else "pcrs"

def zoomLevels : List Nat := List.range (deepestZoom + 1)

section Searches

variable {α β : Type}

/-- The level of least cost, the first one of several. -/
def cheapestLevel (less : α → α → Bool) (cost : Nat → α) : Nat :=
  zoomLevels.foldl (fun best z => if less (cost z) (cost best) then z else best) 0

/-- How far apart two scale denominators are, by their logarithms. -/
def logDistance [Sub α] (log : β → α) (magnitude : α → α) (a b : β) : α :=
  magnitude (log a - log b)

/-- The level whose scale is nearest to `target` by logarithms, the coarser one of two. -/
def nearestLevel [Sub α] (less : α → α → Bool) (log : β → α) (magnitude : α → α)
    (scale : Nat → β) (target : β) : Nat :=
  cheapestLevel less fun z => logDistance log magnitude (scale z) target

def fitsViewport [Div α] [LE α] [DecidableLE α] (resolution extentX extentY width height : α) :
    Bool :=
  extentX / resolution ≤ width && extentY / resolution ≤ height

/-- The deepest level at which a region fits a viewport, or the coarsest level if it never does. -/
def fittingLevel [Div α] [LE α] [DecidableLE α] (resolution : Nat → α)
    (extentX extentY width height : α) : Nat :=
  (zoomLevels.reverse.find? fun z =>
    fitsViewport (resolution z) extentX extentY width height).getD 0

end Searches

/-- The order of magnitudes, in which a NaN comes last: that of their bits. -/
def magnitudeLess (a b : Float) : Bool :=
  a.toBits < b.toBits

/-- The zoom level nearest to a scale denominator by a logarithm. What is no positive number counts
as finer than every level, infinity as coarser. -/
def Tcrs.zoomByLog {α : Type} [Sub α] (t : Tcrs) (less : α → α → Bool) (log : Float → α)
    (magnitude : α → α) (denominator : Float) : Nat :=
  if !(denominator > 0) then deepestZoom
  else if denominator.isInf then 0
  else nearestLevel less log magnitude t.scaleDenominator denominator

/-- The zoom level nearest to a scale denominator, with logarithms as floats. -/
def Tcrs.zoomForScale (t : Tcrs) (denominator : Float) : Nat :=
  t.zoomByLog magnitudeLess Float.log Float.abs denominator

def Tcrs.fittingZoom (t : Tcrs) (box : Box) (width height : Nat) : Nat :=
  fittingLevel t.resolution box.width box.height (Float.ofNat width) (Float.ofNat height)

/-- The least natural number that is not below a float; 0 for what is no positive number. -/
def ceilNat (x : Float) : Nat :=
  if x > 0 && x.isFinite then
    let b := Decimal.Binary.ofFloat x
    let unit := Decimal.twos (-b.exponent)
    (b.mantissa * Decimal.twos b.exponent + (unit - 1)) / unit
  else 0

structure TileMatrix where
  zoom : Nat
  /-- Units per pixel. -/
  resolution : Float
  /-- Columns of tiles. -/
  width : Nat
  /-- Rows of tiles. -/
  height : Nat

/-- The tiles of a zoom level: as many as it takes to span the bounds, and at least one. -/
def Tcrs.tileMatrix (t : Tcrs) (zoom : Nat) : TileMatrix :=
  let zoom := min zoom deepestZoom
  let span := t.resolution zoom * Float.ofNat tileSize
  { zoom
    resolution := t.resolution zoom
    width := max 1 (ceilNat (t.bounds.width / span))
    height := max 1 (ceilNat (t.bounds.height / span)) }

end MapMarkup
