import MapMarkup.Zoom

/-!
# Layers

Layers and groups of layers as the service publishes them: their bounds in degrees, their styles,
whether tiles and tile caches exist for them, and the servers over which their images are spread.
-/

namespace MapMarkup

/-- A style that a layer can be drawn in. -/
structure Style where
  name : String
  scales : Option ScaleRange := none
deriving Repr, DecidableEq

/-- A host pattern and the values that take turns in it. -/
structure Sharding where
  enabled : Bool
  shards : List String
  pattern : String
deriving Repr, DecidableEq

namespace Sharding

def ofList (enabled : Bool) (list pattern : String) : Sharding :=
  ⟨enabled, Text.tokens list, Text.trim pattern⟩

/-- Sharding takes effect when it is switched on and has a value and a pattern. -/
def isActive (s : Sharding) : Bool :=
  s.enabled && s.shards ≠ [] && s.pattern ≠ ""

/-- What is left of a URL from the first slash after its host on. -/
def pathAfterHost (rest : String) : String :=
  match Text.splitFirst '/' rest.toList with
  | some (_, path) => String.ofList ('/' :: path)
  | none => "/"

/-- The scheme of a URL and what follows `://`; a URL without a scheme is one of `http`. -/
def splitScheme : List Char → Option (List Char × List Char)
  | [] => none
  | ':' :: '/' :: '/' :: rest => some ([], rest)
  | c :: cs => (splitScheme cs).map fun p => (c :: p.1, p.2)

/-- A URL with its authority replaced by a pattern; scheme and path stay. -/
def baseUrl (base pattern : String) : String :=
  let (scheme, rest) := match splitScheme base.toList with
    | some (scheme, rest) => (String.ofList scheme, String.ofList rest)
    | none => ("http", base)
  scheme ++ "://" ++ pattern ++ pathAfterHost rest

end Sharding

/-- A single layer, or a group with the names of its members. -/
inductive LayerKind where
  | layer
  | group (members : List String)
deriving Repr, DecidableEq

/-- A layer or group as the service publishes it. -/
structure Layer where
  name : String
  workspace : Option String := none
  title : Option String := none
  kind : LayerKind := .layer
  bounds : Box
  queryable : Bool := true
  styles : List Style := []
  defaultStyle : Option String := none
  useTiles : Bool := false
  cached : List Tcrs := []
  sharding : Option Sharding := none
  multiExtent : Option Bool := none
  featureCaption : Option String := none
deriving Repr, DecidableEq

namespace Layer

def isGroup (l : Layer) : Bool :=
  match l.kind with
  | .group _ => true
  | .layer => false

/-- The name with the workspace in front, if there is one. -/
def qualifiedName (l : Layer) : String :=
  match l.workspace with
  | some w => w ++ ":" ++ l.name
  | none => l.name

/-- The title, or the name of a layer without one. -/
def displayTitle (l : Layer) : String :=
  l.title.getD l.name

def style? (l : Layer) (name : String) : Option Style :=
  l.styles.find? fun s => s.name = name

/-- The style that a request's style token puts into effect: the default style, if the layer has it,
for an empty token. A token that names no style is the error. -/
def effectiveStyle (l : Layer) (token : String) : Except String (Option Style) :=
  if token = "" then .ok (l.defaultStyle.bind l.style?)
  else
    match l.style? token with
    | some s => .ok (some s)
    | none => .error token

/-- The sharding of the layer, if it takes effect. -/
def activeSharding (l : Layer) : Option Sharding :=
  l.sharding.filter Sharding.isActive

def hasCache (l : Layer) (t : Tcrs) : Bool :=
  l.cached.contains t

end Layer

end MapMarkup
