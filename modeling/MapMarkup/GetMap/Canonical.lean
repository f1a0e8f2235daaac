import MapMarkup.GetMap

/-!
# Queries in canonical form

A query may name a parameter in any case and more than once. Before its parameters are taken from
it, it is brought to a form in which every name is in upper case and stands once, with its last
value (`lastPairs`). From that form the parameters are read strictly: a name that stands twice is an
error, and a name that means nothing is passed over (`Parameters.ofPairs`). `Parameters.read` does
both.
-/

namespace MapMarkup

/-- The parameters of a map request. -/
inductive Parameter where
  | service
  | request
  | version
  | layers
  | styles
  | crs
  | srs
  | bbox
  | width
  | height
  | format
  | formatOptions
  | language
  | transparent
deriving Repr, DecidableEq

namespace Parameter

def all : List Parameter :=
  [service, request, version, layers, styles, crs, srs, bbox, width, height, format, formatOptions,
    language, transparent]

/-- The name of a parameter in the canonical form of a query. -/
def name : Parameter → String
  | service => "SERVICE"
  | request => "REQUEST"
  | version => "VERSION"
  | layers => "LAYERS"
  | styles => "STYLES"
  | crs => "CRS"
  | srs => "SRS"
  | bbox => "BBOX"
  | width => "WIDTH"
  | height => "HEIGHT"
  | format => "FORMAT"
  | formatOptions => "FORMAT_OPTIONS"
  | language => "LANGUAGE"
  | transparent => "TRANSPARENT"

def ofName? (name : String) : Option Parameter :=
  all.find? fun f => f.name = name

end Parameter

/-- Pairs with their names in upper case, and of several pairs of one name the last. -/
def lastPairs (pairs : List (String × String)) : List (String × String) :=
  pairs.foldl
    (fun kept p => kept.filter (fun q => q.1 ≠ Text.upper p.1) ++ [(Text.upper p.1, p.2)]) []

namespace Parameters

def value (p : Parameters) : Parameter → Option String
  | .service => p.service
  | .request => p.request
  | .version => p.version
  | .layers => p.layers
  | .styles => p.styles
  | .crs => p.crs
  | .srs => p.srs
  | .bbox => p.bbox
  | .width => p.width
  | .height => p.height
  | .format => p.format
  | .formatOptions => p.formatOptions
  | .language => p.language
  | .transparent => p.transparent

def set (p : Parameters) (f : Parameter) (text : String) : Parameters :=
  match f with
  | .service => { p with service := some text }
  | .request => { p with request := some text }
  | .version => { p with version := some text }
  | .layers => { p with layers := some text }
  | .styles => { p with styles := some text }
  | .crs => { p with crs := some text }
  | .srs => { p with srs := some text }
  | .bbox => { p with bbox := some text }
  | .width => { p with width := some text }
  | .height => { p with height := some text }
  | .format => { p with format := some text }
  | .formatOptions => { p with formatOptions := some text }
  | .language => { p with language := some text }
  | .transparent => { p with transparent := some text }

/-- Parameters with one more pair, whose name may not have stood before. -/
def add (p : Parameters) (pair : String × String) : Except ServiceError Parameters :=
  match Parameter.ofName? pair.1 with
  | none => .ok p
  | some f =>
    match p.value f with
    | none => .ok (p.set f pair.2)
    | some _ => .error (.invalidParameter "request" ("duplicate field `" ++ f.name ++ "`"))

/-- The parameters that pairs make, no name of which may stand twice. -/
def ofPairs (pairs : List (String × String)) : Except ServiceError Parameters :=
  pairs.foldlM add {}

/-- The parameters of a query, read from its canonical form. -/
def read (query : String) : Except ServiceError Parameters :=
  ofPairs (Text.formPairs (Text.formOf (lastPairs (Query.pairs query))))

end Parameters

end MapMarkup
