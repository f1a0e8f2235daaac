import Mathlib
import MapMarkup.Template

/-!
# The nodes of an image source

Which links, inputs and datalists an extent has when its nodes are those of an image source. The
links are the one for images or tiles and the one for queries, if there are layers to query. The
inputs are listed by what a template and a datalist need to know of them: name, type and list.
-/

namespace MapMarkup

/-- What ties an input to the templates and datalists of its extent. -/
def Input.signature (i : Input) : String × InputType × Option String :=
  (i.name, i.type, i.list)

/-- What is to hold for every kind of fetching can be checked kind by kind. -/
instance : Fintype Fetching where
  elems := {.image, .wmsTiles, .wmts}
  complete fetching := by cases fetching <;> decide

namespace ImageSource

def imageSignatures : Fetching → List (String × InputType × Option String)
  | .image =>
    [("xmin", .location, none), ("ymin", .location, none), ("xmax", .location, none),
      ("ymax", .location, none), ("w", .width, none), ("h", .height, none)]
  | .wmsTiles =>
    [("txmin", .location, none), ("tymin", .location, none), ("txmax", .location, none),
      ("tymax", .location, none)]
  | .wmts => [("x", .location, none), ("y", .location, none)]

def signatures (sharded : Bool) (fetching : Fetching) (queried : Bool) :
    List (String × InputType × Option String) :=
  (if sharded then [(shardInput, .hidden, some shardList)] else [])
    ++ ("z", .zoom, none) :: imageSignatures fetching
    ++ (if queried then [("i", .location, none), ("j", .location, none)] else [])

section

variable {e : Extent} {s : ImageSource}

theorem links_eq (h : e.nodes = s.nodes) :
    e.links = Link.template (imageRel s.fetching) s.imageTemplate.text
      :: s.queryLayers.toList.map fun q => Link.template .query (s.queryTemplate q).text := by
  unfold Extent.links
  rw [h]
  obtain ⟨base, tcrs, layers, queryLayers, styles, cacheLayer, fetching, zoom, format, language,
    sharding⟩ := s
  cases fetching <;> cases sharding <;> cases queryLayers <;> rfl

theorem signatures_eq (h : e.nodes = s.nodes) :
    e.inputs.map Input.signature
      = signatures s.sharding.isSome s.fetching s.queryLayers.isSome := by
  unfold Extent.inputs
  rw [h]
  obtain ⟨base, tcrs, layers, queryLayers, styles, cacheLayer, fetching, zoom, format, language,
    sharding⟩ := s
  cases fetching <;> cases sharding <;> cases queryLayers <;> rfl

theorem datalists_eq (h : e.nodes = s.nodes) :
    e.datalists.map Datalist.id = s.sharding.toList.map fun _ => shardList := by
  unfold Extent.datalists
  rw [h]
  obtain ⟨base, tcrs, layers, queryLayers, styles, cacheLayer, fetching, zoom, format, language,
    sharding⟩ := s
  cases fetching <;> cases sharding <;> cases queryLayers <;> rfl

theorem input?_zoom (h : e.nodes = s.nodes) :
    e.input? "z" = some (Input.zoom s.zoom.min s.zoom.max) := by
  unfold Extent.input? Extent.inputs
  rw [h]
  unfold nodes
  cases s.sharding <;> rfl

theorem filter_zoom (h : e.nodes = s.nodes) :
    e.inputs.filter (fun i => i.type = .zoom) = [Input.zoom s.zoom.min s.zoom.max] := by
  unfold Extent.inputs
  rw [h]
  obtain ⟨base, tcrs, layers, queryLayers, styles, cacheLayer, fetching, zoom, format, language,
    sharding⟩ := s
  cases fetching <;> cases sharding <;> cases queryLayers <;> rfl

theorem linksTo_tile (h : e.nodes = s.nodes) (himage : s.fetching = .image) :
    e.linksTo .tile = [] := by
  unfold Extent.linksTo
  rw [links_eq h, himage]
  cases s.queryLayers <;> rfl

end

end ImageSource

end MapMarkup
