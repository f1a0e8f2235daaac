import MapMarkup.ServiceError
import MapMarkup.Template

/-!
# Composing extents

The layers of a request become one hidden extent that covers all of them, or one labelled extent
each. A single layer is shown as the layer says: as tiles from a cache, as tiles, or as one image.
Several layers in one extent are always one image, at every zoom, and share the shards only if all
of them have the same.
-/

namespace MapMarkup

/-- A layer of a request with the name and the style token that the request gave it. -/
structure RequestedLayer where
  token : String
  layer : Layer
  /-- The style token; the empty one stands for the default style. -/
  style : String
deriving Repr, DecidableEq

/-- What all extents of a document have in common. -/
structure ExtentContext where
  tcrs : Tcrs
  multiExtent : Bool
  base : String
  imageFormat : String
  language : Option String
deriving Repr, DecidableEq

/-- Whether several layers get an extent each: the first group that says so decides, and without one
the service does. -/
def effectiveMultiExtent (layers : List RequestedLayer) (service : Bool) : Bool :=
  ((layers.filter fun r => r.layer.isGroup).findSome? fun r => r.layer.multiExtent).getD service

/-- Style tokens as a parameter; empty when all of them are. -/
def stylesParam (styles : List String) : String :=
  if styles.all (· = "") then "" else Text.join ',' styles

namespace RequestedLayer

def zoom (t : Tcrs) (r : RequestedLayer) : Except ServiceError ZoomRange :=
  match r.layer.effectiveStyle r.style with
  | .ok style => .ok (ZoomRange.ofScales t (style.bind Style.scales))
  | .error token => .error (.styleNotDefined r.layer.name token)

/-- How the images of a layer are fetched when it is alone in an extent. -/
def fetching (t : Tcrs) (l : Layer) : Fetching :=
  if !l.useTiles then .image else if l.hasCache t then .wmts else .wmsTiles

end RequestedLayer

namespace ExtentContext

/-- Where the images of a single layer come from. -/
def singleSource (c : ExtentContext) (r : RequestedLayer) (zoom : ZoomRange) : ImageSource where
  base := c.base
  tcrs := c.tcrs
  layers := r.token
  queryLayers := if r.layer.queryable then some r.token else none
  styles := r.style
  cacheLayer := r.layer.qualifiedName
  fetching := RequestedLayer.fetching c.tcrs r.layer
  zoom := zoom
  imageFormat := c.imageFormat
  language := c.language
  sharding := r.layer.activeSharding

/-- The extent of a single layer. It is hidden and without a label when it is the only one. -/
def single (c : ExtentContext) (r : RequestedLayer) (zoom : ZoomRange) (alone : Bool) : Extent where
  units := c.tcrs
  label := if alone then none else some r.layer.name
  checked := true
  hidden := alone
  nodes := (c.singleSource r zoom).nodes

def commonSharding : List RequestedLayer → Option Sharding
  | [] => none
  | first :: rest =>
    first.layer.activeSharding.filter fun s =>
      rest.all fun r => r.layer.activeSharding = some s

/-- Where the images of several layers together come from. -/
def combinedSource (c : ExtentContext) (layers : List RequestedLayer) : ImageSource :=
  let names := Text.join ',' (layers.map RequestedLayer.token)
  let queryable := (layers.filter fun r => r.layer.queryable).map RequestedLayer.token
  { base := c.base
    tcrs := c.tcrs
    layers := names
    queryLayers := if queryable = [] then none else some (Text.join ',' queryable)
    styles := stylesParam (layers.map RequestedLayer.style)
    cacheLayer := names
    fetching := .image
    zoom := ZoomRange.native
    imageFormat := c.imageFormat
    language := c.language
    sharding := commonSharding layers }

def combined (c : ExtentContext) (layers : List RequestedLayer) : Extent where
  units := c.tcrs
  label := none
  checked := true
  hidden := true
  nodes := (c.combinedSource layers).nodes

/-- Each layer with its zoom range, or the first style that a layer does not have. -/
def withZooms (t : Tcrs) (layers : List RequestedLayer) :
    Except ServiceError (List (RequestedLayer × ZoomRange)) :=
  layers.mapM fun r => (r.zoom t).map fun z => (r, z)

def compose (c : ExtentContext) (layers : List RequestedLayer) :
    Except ServiceError (List Extent) := do
  match ← withZooms c.tcrs layers with
  | [] => .error (.missingParameter "LAYERS")
  | [(r, zoom)] => .ok [c.single r zoom true]
  | several =>
    if c.multiExtent then .ok (several.map fun (r, zoom) => c.single r zoom false)
    else .ok [c.combined layers]

end ExtentContext

end MapMarkup
