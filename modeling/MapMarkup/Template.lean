import MapMarkup.Document
import MapMarkup.Layer

/-!
# Link templates

A template is an endpoint with parameters whose values may hold placeholders: a name in braces that
a client replaces by the value of the input of that name. Nothing in a template is encoded.

An `ImageSource` says where the images of one extent come from. Its nodes are the inputs and links
of the extent: the shards if there are any, the zoom, the inputs and the template for images or
tiles, and the inputs and the template for queries if anything can be queried.
-/

namespace MapMarkup

structure Template where
  endpoint : String
  params : List (String × String)
deriving Repr, DecidableEq

def Template.parameter (p : String × String) : List Char :=
  p.1.toList ++ '=' :: p.2.toList

def Template.text (t : Template) : String :=
  String.ofList
    (t.endpoint.toList ++ '?' :: Text.joinFields '&' (t.params.map Template.parameter))

def placeholder (name : String) : String := "\x7b" ++ name ++ "\x7d"

/-- How the images of an extent are fetched. -/
inductive Fetching where
  | image
  | wmsTiles
  | wmts
deriving Repr, DecidableEq

/-- Where the images of an extent come from. -/
structure ImageSource where
  base : String
  tcrs : Tcrs
  /-- Names of the layers, between commas. -/
  layers : String
  queryLayers : Option String
  styles : String
  cacheLayer : String
  fetching : Fetching
  zoom : ZoomRange
  imageFormat : String
  language : Option String
  sharding : Option Sharding

def shardList : String := "servers"

def shardInput : String := "s"

def featureCount : Nat := 50

namespace ImageSource

/-- The base of the URLs in templates, on the sharded host if there is one. -/
def templateBase (s : ImageSource) : String :=
  match s.sharding with
  | some sharding => Sharding.baseUrl s.base sharding.pattern
  | none => s.base

def mapEndpoint (s : ImageSource) : String := s.templateBase ++ "wms"

def cacheEndpoint (s : ImageSource) : String := s.templateBase ++ "gwc/service/wmts"

def languageParam (s : ImageSource) : List (String × String) :=
  s.language.toList.map fun l => ("language", l)

/-- What stands before the names of location inputs: tiles have inputs of their own. -/
def inputStart : Fetching → String
  | .image => ""
  | .wmsTiles | .wmts => "t"

/-- The box of an image or tile, from the location inputs. -/
def boxParam (fetching : Fetching) : String :=
  let corner (name : String) : String := placeholder (inputStart fetching ++ name)
  corner "xmin" ++ "," ++ corner "ymin" ++ "," ++ corner "xmax" ++ "," ++ corner "ymax"

/-- The width and height of an image: those of the viewport, or those of a tile. -/
def sizeParams : Fetching → List (String × String)
  | .image => [("width", placeholder "w"), ("height", placeholder "h")]
  | .wmsTiles | .wmts => [("width", toString tileSize), ("height", toString tileSize)]

def mapTemplate (s : ImageSource) : Template where
  endpoint := s.mapEndpoint
  params :=
    [("version", "1.3.0"), ("service", "WMS"), ("request", "GetMap"), ("crs", s.tcrs.code),
      ("layers", s.layers), ("styles", s.styles), ("bbox", boxParam s.fetching),
      ("format", s.imageFormat), ("transparent", "true")]
      ++ sizeParams s.fetching ++ s.languageParam

def cacheParams (s : ImageSource) (request : String) : List (String × String) :=
  [("layer", s.cacheLayer), ("style", s.styles), ("tilematrixset", s.tcrs.name),
    ("service", "WMTS"), ("request", request), ("version", "1.0.0"),
    ("tilematrix", placeholder "z"), ("TileCol", placeholder "x"), ("TileRow", placeholder "y")]

def cacheTemplate (s : ImageSource) : Template where
  endpoint := s.cacheEndpoint
  params := s.cacheParams "GetTile" ++ [("format", s.imageFormat)]

def imageTemplate (s : ImageSource) : Template :=
  match s.fetching with
  | .image | .wmsTiles => s.mapTemplate
  | .wmts => s.cacheTemplate

def queryTemplate (s : ImageSource) (queryLayers : String) : Template :=
  match s.fetching with
  | .image | .wmsTiles =>
    { endpoint := s.mapEndpoint
      params :=
        [("version", "1.3.0"), ("service", "WMS"), ("request", "GetFeatureInfo"),
          ("crs", s.tcrs.code), ("layers", s.layers), ("query_layers", queryLayers),
          ("styles", s.styles), ("bbox", boxParam s.fetching), ("transparent", "true")]
          ++ sizeParams s.fetching
          ++ [("x", placeholder "i"), ("y", placeholder "j"), ("info_format", "text/mapml"),
            ("feature_count", toString featureCount)]
          ++ s.languageParam }
  | .wmts =>
    { endpoint := s.cacheEndpoint
      params :=
        s.cacheParams "GetFeatureInfo"
          ++ [("i", placeholder "i"), ("j", placeholder "j"), ("infoformat", "text/mapml"),
            ("feature_count", toString featureCount)] }

def shardNodes (sharding : Sharding) : List Node :=
  [.datalist { id := shardList, options := sharding.shards.map fun s => (s, s) },
    .input { name := shardInput, type := .hidden, list := some shardList, shard := true }]

def axes (t : Tcrs) : Axis × Axis :=
  if t.crs.isGeographic then (.longitude, .latitude) else (.easting, .northing)

def locationUnits (t : Tcrs) : Units :=
  if t.crs.isGeographic then .gcrs else .pcrs

/-- The four inputs for the sides of a box, each within the bounds of the tiled system. -/
def boxInputs (t : Tcrs) (start : String) (units : Units) : List Node :=
  let (xAxis, yAxis) := axes t
  let b := t.bounds
  let x (name : String) (corner : Corner) : Node :=
    .input { (Input.location (start ++ name) units xAxis).withRange b.minX b.maxX with
      position := some corner }
  let y (name : String) (corner : Corner) : Node :=
    .input { (Input.location (start ++ name) units yAxis).withRange b.minY b.maxY with
      position := some corner }
  [x "xmin" .topLeft, y "ymin" .bottomLeft, x "xmax" .topRight, y "ymax" .topRight]

/-- The inputs for the column and row of a tile, over the tiles of the least zoom. -/
def tileInputs (t : Tcrs) (zoom : ZoomRange) : List Node :=
  let tiles := t.tileMatrix zoom.min
  [.input ((Input.location "x" .tilematrix .column).withRange 0 (Float.ofNat (tiles.width - 1))),
    .input ((Input.location "y" .tilematrix .row).withRange 0 (Float.ofNat (tiles.height - 1)))]

/-- The inputs that the template for images or tiles takes beside the zoom and the shard. -/
def imageInputs (s : ImageSource) : List Node :=
  match s.fetching with
  | .image =>
    boxInputs s.tcrs (inputStart .image) (locationUnits s.tcrs)
      ++ [.input { name := "w", type := .width }, .input { name := "h", type := .height }]
  | .wmsTiles => boxInputs s.tcrs (inputStart .wmsTiles) .tilematrix
  | .wmts => tileInputs s.tcrs s.zoom

def imageRel : Fetching → Rel
  | .image => .image
  | .wmsTiles | .wmts => .tile

def queryUnits : Fetching → Units
  | .image => .map
  | .wmsTiles | .wmts => .tile

/-- The inputs and the link for queries, if anything can be queried. -/
def queryNodes (s : ImageSource) : List Node :=
  match s.queryLayers with
  | none => []
  | some queryLayers =>
    [.input (Input.location "i" (queryUnits s.fetching) .i),
      .input (Input.location "j" (queryUnits s.fetching) .j),
      .link (Link.template .query (s.queryTemplate queryLayers).text)]

def nodes (s : ImageSource) : List Node :=
  (s.sharding.toList.flatMap shardNodes)
    ++ .input (Input.zoom s.zoom.min s.zoom.max) :: s.imageInputs
    ++ .link (Link.template (imageRel s.fetching) s.imageTemplate.text) :: s.queryNodes

end ImageSource

end MapMarkup
