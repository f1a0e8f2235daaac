import MapMarkup.TiledCrs

/-!
# Documents

A document describes a map to a client. Its head holds a title, a base URL, metadata, a link to
itself and links to the same map in other tiled systems. Its body holds extents; each lists the
inputs that a client fills in and the links whose templates take them.
-/

namespace MapMarkup

inductive Rel where
  | image
  | tile
  | query
  | selfStyle
  | alternate
deriving Repr, DecidableEq

/-- A link, by a template in an extent and by a plain reference in the head. -/
structure Link where
  rel : Rel
  tref : Option String := none
  href : Option String := none
  mediaType : Option String := none
  projection : Option Tcrs := none
deriving Repr, DecidableEq

def Link.template (rel : Rel) (tref : String) : Link :=
  { rel, tref := some tref }

def Link.reference (rel : Rel) (href mediaType : String) : Link :=
  { rel, href := some href, mediaType := some mediaType }

inductive InputType where
  | zoom
  | location
  | width
  | height
  | hidden
deriving Repr, DecidableEq

/-- The axis along which a location input is taken. -/
inductive Axis where
  | easting
  | northing
  | longitude
  | latitude
  | column
  | row
  | i
  | j
deriving Repr, DecidableEq

inductive Units where
  | pcrs
  | gcrs
  | tilematrix
  | tile
  | map
deriving Repr, DecidableEq

/-- The corner at which a location input is taken. -/
inductive Corner where
  | topLeft
  | topRight
  | bottomLeft
  | bottomRight
deriving Repr, DecidableEq

structure Input where
  name : String
  type : InputType
  units : Option Units := none
  axis : Option Axis := none
  position : Option Corner := none
  min : Option Float := none
  max : Option Float := none
  value : Option String := none
  list : Option String := none
  shard : Bool := false
deriving Repr, DecidableEq

namespace Input

/-- The input with the least and the greatest value it takes. -/
def withRange (i : Input) (min max : Float) : Input :=
  { i with min := some min, max := some max }

def zoom (min max : Nat) : Input :=
  { name := "z", type := .zoom, min := some (Float.ofNat min), max := some (Float.ofNat max),
    value := some (toString max) }

def location (name : String) (units : Units) (axis : Axis) : Input :=
  { name, type := .location, units := some units, axis := some axis }

end Input

/-- Values for an input to choose from, each with its label in front. -/
structure Datalist where
  id : String
  options : List (String × String)
deriving Repr, DecidableEq

inductive Node where
  | link (link : Link)
  | input (input : Input)
  | datalist (list : Datalist)
deriving Repr, DecidableEq

/-- A mapped layer, or several that are mapped together. -/
structure Extent where
  units : Tcrs
  label : Option String
  checked : Bool
  hidden : Bool
  nodes : List Node
deriving Repr, DecidableEq

namespace Extent

def links (e : Extent) : List Link :=
  e.nodes.filterMap fun
    | .link l => some l
    | _ => none

def inputs (e : Extent) : List Input :=
  e.nodes.filterMap fun
    | .input i => some i
    | _ => none

def datalists (e : Extent) : List Datalist :=
  e.nodes.filterMap fun
    | .datalist d => some d
    | _ => none

def linksTo (e : Extent) (rel : Rel) : List Link :=
  e.links.filter fun l => l.rel = rel

def input? (e : Extent) (name : String) : Option Input :=
  e.inputs.find? fun i => i.name = name

end Extent

inductive Meta where
  | charset (charset : String)
  | httpEquiv (field content : String)
  | named (name content : String)
deriving Repr, DecidableEq

structure Head where
  title : String
  base : String
  metas : List Meta
  links : List Link
deriving Repr, DecidableEq

structure Document where
  head : Head
  extents : List Extent
deriving Repr, DecidableEq

def Document.headLinks (d : Document) (rel : Rel) : List Link :=
  d.head.links.filter fun l => l.rel = rel

namespace InputType

def word : InputType → String
  | zoom => "zoom"
  | location => "location"
  | width => "width"
  | height => "height"
  | hidden => "hidden"

end InputType

namespace Axis

def word : Axis → String
  | easting => "easting"
  | northing => "northing"
  | longitude => "longitude"
  | latitude => "latitude"
  | column => "column"
  | row => "row"
  | i => "i"
  | j => "j"

end Axis

namespace Units

def word : Units → String
  | pcrs => "pcrs"
  | gcrs => "gcrs"
  | tilematrix => "tilematrix"
  | tile => "tile"
  | map => "map"

end Units

namespace Corner

def word : Corner → String
  | topLeft => "top-left"
  | topRight => "top-right"
  | bottomLeft => "bottom-left"
  | bottomRight => "bottom-right"

end Corner

end MapMarkup
