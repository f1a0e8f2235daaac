import MapMarkup.Catalog
import MapMarkup.Document
import MapMarkup.Extent
import MapMarkup.GetMap
import MapMarkup.Preview
import MapMarkup.Service

/-!
# Publishing documents

A publisher answers map requests from a catalog: it finds the layers, settles the bounds, and puts
together the head and the extents of the document, or the preview page that loads it. Boxes are
taken between reference systems by a projector; where that fails, the bounds of the tiled system
stand in, or a link is left out.
-/

namespace MapMarkup

structure Publisher where
  catalog : Catalog
  service : Service
  projector : Projector := Sampling.usual.projector

/-- The URL of the document of a request, in a tiled system and for a box of it. -/
def documentUrl (base : String) (r : Request) (t : Tcrs) (b : Box) : String :=
  Query.url (base ++ "wms")
    ([("service", "WMS"), ("version", "1.3.0"), ("request", "GetMap"),
      ("layers", Text.join ',' r.layers), ("styles", stylesParam r.styles), ("crs", t.code),
      ("bbox", b.toParam .xy), ("format", documentType), ("width", toString r.width),
      ("height", toString r.height)]
      ++ r.language.toList.map fun l => ("language", l))

/-- The URL from which a preview page loads the document of a request. -/
def previewSource (base : String) (r : Request) (t : Tcrs) (b : Box) : String :=
  Query.url (base ++ "wms")
    ([("LAYERS", Text.join ',' r.layers), ("STYLES", stylesParam r.styles), ("CRS", t.code),
      ("BBOX", b.toParam .xy), ("WIDTH", toString r.width), ("HEIGHT", toString r.height),
      ("FORMAT", documentType), ("SERVICE", "WMS"), ("VERSION", "1.3.0"), ("REQUEST", "GetMap")]
      ++ r.language.toList.map fun l => ("LANGUAGE", l))

def headMetas (t : Tcrs) (b : Box) : List Meta :=
  let (x, y) := if t.crs.isGeographic then ("longitude", "latitude") else ("easting", "northing")
  let corners :=
    "top-left-" ++ x ++ "=" ++ Decimal.text b.minX ++ ",top-left-" ++ y ++ "="
      ++ Decimal.text b.maxY ++ ",bottom-right-" ++ x ++ "=" ++ Decimal.text b.maxX
      ++ ",bottom-right-" ++ y ++ "=" ++ Decimal.text b.minY
  [.charset "utf-8",
    .httpEquiv "Content-Type" (documentType ++ ";projection=" ++ t.name),
    .named "projection" t.name,
    .named "cs" t.coordinateKind,
    .named "extent" corners]

/-- A box of one tiled system in every other one that it can be taken to. -/
def alternateBounds (projector : Projector) (b : Box) (source : Tcrs) : List (Tcrs × Box) :=
  (Tcrs.all.filter (· ≠ source)).filterMap fun target =>
    match projector b source.crs target.crs with
    | .ok box => some (target, box)
    | .error _ => none

namespace Publisher

def resolveLayer (p : Publisher) (r : Request) (token style : String) :
    Except ServiceError RequestedLayer :=
  match p.catalog.find? token r.workspace with
  | some layer => .ok ⟨token, layer, style⟩
  | none => .error (.layerNotDefined token)

def resolveLayers (p : Publisher) (r : Request) : Except ServiceError (List RequestedLayer) :=
  r.layers.zipIdx.mapM fun (token, i) => p.resolveLayer r token (r.styles.getD i "")

/-- The least box around the bounds of several layers, if there are any. -/
def unionBounds : List RequestedLayer → Option Box
  | [] => none
  | first :: rest => some (rest.foldl (fun b l => b.union l.layer.bounds) first.layer.bounds)

/-- The bounds that layers have in a tiled system, if they can be taken there and meet its bounds.
-/
def projectedBounds (p : Publisher) (t : Tcrs) (b : Box) : Option Box :=
  match p.projector b .crs84 t.crs with
  | .ok box => box.intersection? t.bounds
  | .error _ => none

/-- The bounds of a document: those of the request, or else of its layers, or else of the tiled
system. -/
def bounds (p : Publisher) (r : Request) (layers : List RequestedLayer) : Box :=
  match r.bbox with
  | some b => b
  | none => ((unionBounds layers).bind (p.projectedBounds r.tcrs)).getD r.tcrs.bounds

def selfLink (base : String) (r : Request) (b : Box) : Link :=
  Link.reference .selfStyle (documentUrl base r r.tcrs b) documentType

def alternateLinks (p : Publisher) (base : String) (r : Request) (b : Box) : List Link :=
  (alternateBounds p.projector b r.tcrs).map fun (t, box) =>
    { Link.reference .alternate (documentUrl base r t box) documentType with
      projection := some t }

def head (p : Publisher) (r : Request) (layers : List RequestedLayer) : Head :=
  let base := p.service.base r.workspace
  let b := p.bounds r layers
  { title := Text.join ',' (layers.map fun l => l.layer.displayTitle)
    base := base ++ "wms"
    metas := headMetas r.tcrs b
    links := selfLink base r b :: p.alternateLinks base r b }

def extentContext (p : Publisher) (r : Request) (layers : List RequestedLayer) :
    ExtentContext where
  tcrs := r.tcrs
  multiExtent := effectiveMultiExtent layers p.service.multiExtent
  base := p.service.base r.workspace
  imageFormat := r.imageFormat.getD p.service.imageFormat
  language := r.language

def assemble (p : Publisher) (r : Request) (layers : List RequestedLayer) :
    Except ServiceError Document :=
  (ExtentContext.compose (p.extentContext r layers) layers).map fun extents =>
    { head := p.head r layers, extents }

def document (p : Publisher) (r : Request) : Except ServiceError Document := do
  let layers ← p.resolveLayers r
  p.assemble r layers

/-- The workspace of the only layer of a request. -/
def onlyWorkspace : List RequestedLayer → Option String
  | [only] => only.layer.workspace
  | _ => none

/-- What the preview page of a request shows; the document is loaded within the workspace of the
request, or of its only layer. -/
def previewOf (p : Publisher) (r : Request) (layers : List RequestedLayer) (d : Document) :
    Preview :=
  let b := p.bounds r layers
  { title := d.head.title
    tcrs := r.tcrs
    bounds := b
    width := r.width
    height := r.height
    source := previewSource (p.service.base (r.workspace.or (onlyWorkspace layers))) r r.tcrs b
    script := p.service.base none ++ viewerPath }

def preview (p : Publisher) (r : Request) : Except ServiceError String := do
  let layers ← p.resolveLayers r
  let d ← p.assemble r layers
  return (p.previewOf r layers d).page

end Publisher

end MapMarkup
