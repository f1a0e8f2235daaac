import MapMarkup.Publisher
import MapMarkup.Yaml.Access

/-!
# Catalog files

A catalog file is a YAML document with the settings of the service, its layers and its groups of
layers. Layers come first and groups after them, so a group may refer to layers and to the groups
above it. A group without a box of its own has the least box around its members.
-/

namespace MapMarkup

open Yaml (Access)

/-- Why a catalog file cannot be used. -/
inductive CatalogFault where
  | malformed (fault : Yaml.Fault)
  /-- A group without a box refers to a member that does not precede it. -/
  | unknownMember (group member : String)
  | noMembers (group : String)
  | invalid (error : ServiceError)
deriving Repr, DecidableEq

/-- What is wrong with a catalog whose form is right. -/
def CatalogFault.message? : CatalogFault → Option String
  | malformed _ => none
  | unknownMember group member => some (Catalog.unknownMember group member)
  | noMembers group => some ("Layer group '" ++ group ++ "' has no layers")
  | invalid error => some error.message

/-- A group as a catalog file has it. -/
structure GroupEntry where
  name : String
  workspace : Option String
  title : Option String
  members : List String
  bounds : Option Box
  queryable : Bool
  multiExtent : Option Bool
deriving DecidableEq

structure CatalogFile where
  service : Service
  layers : List Layer
  groups : List GroupEntry
deriving DecidableEq

/-! ### Reading -/

namespace CatalogFile

def readBox (n : Yaml.Node) : Access Box := do
  let fs ← Access.record ["west", "south", "east", "north"] n
  return {
    minX := ← Access.required fs "west" Access.number
    minY := ← Access.required fs "south" Access.number
    maxX := ← Access.required fs "east" Access.number
    maxY := ← Access.required fs "north" Access.number }

/-- A style; without bounds on its scale it draws at any scale. -/
def readStyle (n : Yaml.Node) : Access Style := do
  let fs ← Access.record ["name", "min_scale", "max_scale"] n
  let scales : ScaleRange := {
    minDenominator := ← Access.field fs "min_scale" (Access.optional Access.number) none
    maxDenominator := ← Access.field fs "max_scale" (Access.optional Access.number) none }
  return {
    name := ← Access.required fs "name" Access.text
    scales := if scales.isUnbounded then none else some scales }

def readSharding (n : Yaml.Node) : Access Sharding := do
  let fs ← Access.record ["enabled", "shards", "server_pattern"] n
  return Sharding.ofList
    (← Access.field fs "enabled" Access.flag true)
    (← Access.required fs "shards" Access.text)
    (← Access.required fs "server_pattern" Access.text)

def layerFields : List String :=
  ["name", "workspace", "title", "bbox", "queryable", "styles", "default_style", "use_tiles",
    "cached_gridsets", "sharding", "feature_caption"]

def readLayer (n : Yaml.Node) : Access Layer := do
  let fs ← Access.record layerFields n
  let caches ← Access.field fs "cached_gridsets" (Access.list Access.text) []
  return {
    name := ← Access.required fs "name" Access.text
    workspace := ← Access.field fs "workspace" (Access.optional Access.text) none
    title := ← Access.field fs "title" (Access.optional Access.text) none
    bounds := ← Access.required fs "bbox" readBox
    queryable := ← Access.field fs "queryable" Access.flag true
    styles := ← Access.field fs "styles" (Access.list readStyle) []
    defaultStyle := ← Access.field fs "default_style" (Access.optional Access.text) none
    useTiles := ← Access.field fs "use_tiles" Access.flag false
    cached := caches.filterMap Tcrs.ofText?
    sharding := ← Access.field fs "sharding" (Access.optional readSharding) none
    featureCaption := ← Access.field fs "feature_caption" (Access.optional Access.text) none }

def groupFields : List String :=
  ["name", "workspace", "title", "layers", "bbox", "queryable", "multi_extent"]

def readGroup (n : Yaml.Node) : Access GroupEntry := do
  let fs ← Access.record groupFields n
  return {
    name := ← Access.required fs "name" Access.text
    workspace := ← Access.field fs "workspace" (Access.optional Access.text) none
    title := ← Access.field fs "title" (Access.optional Access.text) none
    members := ← Access.required fs "layers" (Access.list Access.text)
    bounds := ← Access.field fs "bbox" (Access.optional readBox) none
    queryable := ← Access.field fs "queryable" Access.flag true
    multiExtent := ← Access.field fs "multi_extent" (Access.optional Access.flag) none }

def readService (n : Yaml.Node) : Access Service := do
  let fs ← Access.record ["base_url", "multi_layer_as_multi_extent", "image_format"] n
  return {
    baseUrl := ← Access.required fs "base_url" Access.text
    multiExtent := ← Access.field fs "multi_layer_as_multi_extent" Access.flag false
    imageFormat := ← Access.field fs "image_format" Access.text ({} : Service).imageFormat }

def readFile (n : Yaml.Node) : Access CatalogFile := do
  let fs ← Access.record ["service", "layers", "groups"] n
  let settings ← Access.field fs "service" (Access.optional readService) none
  return {
    service := settings.getD {}
    layers := ← Access.field fs "layers" (Access.list readLayer) []
    groups := ← Access.field fs "groups" (Access.list readGroup) [] }

def ofText (text : String) : Except Yaml.Fault CatalogFile := do
  (← Yaml.Document.ofText text).value readFile

end CatalogFile

/-! ### The catalog -/

namespace GroupEntry

def memberBounds (g : GroupEntry) (c : Catalog) (member : String) : Except CatalogFault Box :=
  match c.find? member g.workspace with
  | some l => .ok l.bounds
  | none => .error (.unknownMember g.name member)

/-- The bounds of a group: its own box, or else the least box around its members. -/
def boundsIn (g : GroupEntry) (c : Catalog) : Except CatalogFault Box :=
  match g.bounds with
  | some b => .ok b
  | none => do
    match ← g.members.mapM (g.memberBounds c) with
    | [] => .error (.noMembers g.name)
    | b :: bs => .ok (bs.foldl Box.union b)

def toLayer (g : GroupEntry) (bounds : Box) : Layer :=
  { name := g.name
    workspace := g.workspace
    title := g.title
    kind := .group g.members
    bounds
    queryable := g.queryable
    multiExtent := g.multiExtent }

def addTo (c : Catalog) (g : GroupEntry) : Except CatalogFault Catalog :=
  (g.boundsIn c).map fun b => c.add (g.toLayer b)

end GroupEntry

namespace CatalogFile

def catalog (f : CatalogFile) : Except CatalogFault Catalog := do
  let c ← f.groups.foldlM GroupEntry.addTo ⟨f.layers⟩
  match c.validate with
  | .ok () => .ok c
  | .error e => .error (.invalid e)

end CatalogFile

def Publisher.ofText (text : String) : Except CatalogFault Publisher :=
  match CatalogFile.ofText text with
  | .error fault => .error (.malformed fault)
  | .ok f => f.catalog.map fun catalog => { catalog, service := f.service }

/-- What is said of a catalog file that cannot be read. -/
def unreadableFile (path : String) : String :=
  "Failed to read catalog file " ++ path

def invalidFile (path : String) : String :=
  "Invalid catalog file " ++ path

end MapMarkup
