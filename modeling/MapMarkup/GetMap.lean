import MapMarkup.Query
import MapMarkup.ServiceError
import MapMarkup.TiledCrs

/-!
# Map requests

A map request is read in two steps. `Parameters.ofQuery` picks the fourteen parameters that mean
something out of a query string: the case of their names does not matter, and the last value of a
name counts. `Parameters.toRequest` checks them in a fixed order and gives the request, or says
which parameter is wrong.
-/

namespace MapMarkup

def documentType : String := "text/mapml"

def previewType : String := "text/html; subtype=mapml"

inductive Output where
  | document
  | preview
deriving Repr, DecidableEq

namespace Output

def mediaType : Output → String
  | document => documentType
  | preview => previewType

/-- The output that a media type asks for; its parameters and the case of its letters do not
matter. -/
def ofMediaType? (text : String) : Option Output :=
  let base := match Text.splitFirst ';' text.toList with
    | some (base, _) => base
    | none => text.toList
  match String.ofList (Text.lowerChars (Text.trimChars base)) with
  | "text/mapml" => some document
  | "text/html" => some preview
  | _ => none

end Output

/-- The parameters of a map request as they were written. -/
structure Parameters where
  service : Option String := none
  request : Option String := none
  version : Option String := none
  layers : Option String := none
  styles : Option String := none
  crs : Option String := none
  srs : Option String := none
  bbox : Option String := none
  width : Option String := none
  height : Option String := none
  format : Option String := none
  formatOptions : Option String := none
  language : Option String := none
  transparent : Option String := none
deriving Repr, DecidableEq

structure Request where
  version : String
  layers : List String
  /-- A style token for each layer; the empty one stands for the default style. -/
  styles : List String
  tcrs : Tcrs
  bbox : Option Box
  width : Nat
  height : Nat
  output : Output
  imageFormat : Option String
  language : Option String
  workspace : Option String
deriving Repr, DecidableEq

def splitLayers : String → List String :=
  Text.tokens

/-- A style token for each of `count` layers: the tokens of a comma-separated list in order, then
empty ones. -/
def distributeStyles (list : Option String) (count : Nat) : List String :=
  let tokens := match list with
    | none => []
    | some s => if s = "" then [] else (Text.fields ',' s).map Text.trim
  (List.range count).map fun i => tokens.getD i ""

/-- The value of the last pair of a name, whatever the case the name is written in. -/
def lastValue? (pairs : List (String × String)) (name : String) : Option String :=
  ((pairs.filter fun p => Text.upper p.1 = name).getLast?).map Prod.snd

/-- One `key:value` option; a piece without a colon or with a blank key is none. -/
def formatOption? (piece : List Char) : Option (String × String) :=
  match Text.splitFirst ':' piece with
  | none => none
  | some (key, value) =>
    let key := Text.lowerChars (Text.trimChars key)
    if key = [] then none else some (String.ofList key, String.ofList (Text.trimChars value))

/-- The `key:value` options of a semicolon-separated list, with keys in lower case. -/
def formatOptions (list : String) : List (String × String) :=
  (Text.splitFields ';' list.toList).filterMap formatOption?

def lastOption? (options : List (String × String)) (key : String) : Option String :=
  ((options.filter fun o => o.1 = key).getLast?).map Prod.snd

def imageFormatOption : String := "mapmlwmsmimetype"

/-- The tiled system that a request names and the axis order of its box. Tiled systems are always
written with the easting first. -/
def resolveCrs (text version : String) : Except ServiceError (Tcrs × AxisOrder) :=
  match Tcrs.ofText? text with
  | some t => .ok (t, .xy)
  | none =>
    match Crs.ofText text with
    | .error fault => .error fault.toServiceError
    | .ok crs =>
      match Tcrs.ofCrs? crs with
      | some t => .ok (t, crs.axisOrderIn version)
      | none => .error (.unsupportedCrs text)

namespace Parameters

/-- The parameters that have the values of their names. -/
def ofValues (value : String → Option String) : Parameters :=
  { service := value "SERVICE"
    request := value "REQUEST"
    version := value "VERSION"
    layers := value "LAYERS"
    styles := value "STYLES"
    crs := value "CRS"
    srs := value "SRS"
    bbox := value "BBOX"
    width := value "WIDTH"
    height := value "HEIGHT"
    format := value "FORMAT"
    formatOptions := value "FORMAT_OPTIONS"
    language := value "LANGUAGE"
    transparent := value "TRANSPARENT" }

def ofQuery (text : String) : Parameters :=
  ofValues (lastValue? (Query.pairs text))

/-- The reference system of a request: the parameter that the version prefers, or else the other. -/
def crsIn (p : Parameters) (version : String) : Option String :=
  if "1.1".toList.isPrefixOf version.toList then p.srs.or p.crs else p.crs.or p.srs

/-- The protocol, if it is named, is the one of this service. -/
def checkService (p : Parameters) : Except ServiceError Unit :=
  match p.service with
  | some s =>
    if Text.sameLetters s "WMS" then .ok ()
    else .error (.invalidParameter "SERVICE" "SERVICE must be WMS")
  | none => .ok ()

/-- The operation, if it is named, is the one of this service. -/
def checkRequest (p : Parameters) : Except ServiceError Unit :=
  match p.request with
  | some r =>
    if Text.sameLetters r "GetMap" then .ok ()
    else .error (.invalidParameter "REQUEST" ("Unsupported request for MapML output: " ++ r))
  | none => .ok ()

/-- The layers that a request names, at least one. -/
def readLayers (p : Parameters) : Except ServiceError (List String) :=
  match p.layers with
  | none => .error (.missingParameter "LAYERS")
  | some list =>
    match splitLayers list with
    | [] => .error (.missingParameter "LAYERS")
    | layers => .ok layers

def readCrs (p : Parameters) (version : String) : Except ServiceError (Tcrs × AxisOrder) :=
  match p.crsIn version with
  | none => .error (.missingParameter "CRS")
  | some text => resolveCrs text version

def readBox (p : Parameters) (order : AxisOrder) : Except ServiceError (Option Box) :=
  match p.bbox with
  | none => .ok none
  | some text =>
    match Box.ofParam text order with
    | .ok box => .ok (some box)
    | .error fault => .error fault.toServiceError

/-- The greatest number that a width or height may be. -/
def greatestSize : Nat := 4294967295

/-- A width or height: a positive number of pixels. -/
def readSize (name : String) (value : Option String) : Except ServiceError Nat :=
  match value with
  | none => .error (.missingParameter name)
  | some text =>
    let wrong : ServiceError :=
      .invalidParameter name (name ++ " must be a positive integer, got '" ++ text ++ "'")
    match Decimal.readNat (Text.trimChars text.toList) with
    | some n => if 0 < n ∧ n ≤ greatestSize then .ok n else .error wrong
    | none => .error wrong

/-- The output of a request; without a format it is a document. -/
def readOutput (p : Parameters) : Except ServiceError Output :=
  match p.format with
  | none => .ok .document
  | some text =>
    match Output.ofMediaType? text with
    | some output => .ok output
    | none =>
      .error (.invalidParameter "FORMAT" ("Unsupported format for MapML output: " ++ text))

def imageFormat? (p : Parameters) : Option String :=
  p.formatOptions.bind fun list => lastOption? (MapMarkup.formatOptions list) imageFormatOption

/-- The request that the parameters make, or the first thing that is wrong with them. -/
def toRequest (p : Parameters) : Except ServiceError Request := do
  p.checkService
  p.checkRequest
  let version := p.version.getD "1.3.0"
  let layers ← p.readLayers
  let (tcrs, order) ← p.readCrs version
  let bbox ← p.readBox order
  let width ← readSize "WIDTH" p.width
  let height ← readSize "HEIGHT" p.height
  let output ← p.readOutput
  return {
    version
    layers
    styles := distributeStyles p.styles layers.length
    tcrs
    bbox
    width
    height
    output
    imageFormat := p.imageFormat?
    language := p.language.filter fun l => !Text.allBlank l
    workspace := none }

end Parameters

namespace Request

def plain (layers : List String) (tcrs : Tcrs) (width height : Nat) : Request :=
  { version := "1.3.0"
    layers
    styles := layers.map fun _ => ""
    tcrs
    bbox := none
    width
    height
    output := .document
    imageFormat := none
    language := none
    workspace := none }

def withWorkspace (r : Request) (workspace : String) : Request :=
  { r with workspace := some workspace }

def withBox (r : Request) (box : Box) : Request :=
  { r with bbox := some box }

def withStyles (r : Request) (list : String) : Request :=
  { r with styles := distributeStyles (some list) r.layers.length }

def withLanguage (r : Request) (language : String) : Request :=
  { r with language := some language }

end Request

end MapMarkup
