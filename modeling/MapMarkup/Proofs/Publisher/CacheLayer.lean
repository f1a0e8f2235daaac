import MapMarkup.Proofs.Catalog
import MapMarkup.Proofs.Extent.Decoded

/-!
# The layer that a tile cache is asked for

A tile cache knows nothing of the workspace that a request was addressed to, so it is asked for a
layer by its qualified name. That name alone leads to the entry that the token of the request led to
in its workspace, even if other entries share its name: `Catalog.lookup_isStable`.
-/

namespace MapMarkup

namespace ImageSource

variable {s : ImageSource} {t : Template} {name : String}

/-- Templates for a tile cache ask for the cached layer, and the other ones for no such thing. -/
theorem mem_layer_templates (ht : t ∈ s.templates) :
    ("layer", name) ∈ t.params ↔ s.fetching = .wmts ∧ name = s.cacheLayer := by
  have himage : ("layer", name) ∈ s.imageTemplate.params
      ↔ s.fetching = .wmts ∧ name = s.cacheLayer := by
    unfold imageTemplate
    cases hfetching : s.fetching <;>
      simp [mapTemplate, cacheTemplate, cacheParams, sizeParams, languageParam, hfetching]
  have hquery (queryLayers : String) : ("layer", name) ∈ (s.queryTemplate queryLayers).params
      ↔ s.fetching = .wmts ∧ name = s.cacheLayer := by
    unfold queryTemplate
    cases hfetching : s.fetching <;> simp [cacheParams, sizeParams, languageParam]
  rcases List.mem_cons.mp ht with rfl | ht
  · exact himage
  · obtain ⟨queryLayers, _, rfl⟩ := List.mem_map.mp ht
    exact hquery queryLayers

end ImageSource

namespace ExtentContext

/-- What the templates of an extent ask a tile cache for, in a catalog and for a request that is
addressed to a workspace or to none. -/
inductive IsAddressedOver (c : ExtentContext) (catalog : Catalog) (workspace : Option String)
    (covered : List RequestedLayer) (e : Extent) : Prop
  /-- The tiles of a single layer, if a cache has them, are asked for by its qualified name. The
  name leads to the place that the token led to. -/
  | single (r : RequestedLayer) (z : ZoomRange) (i : Nat) (hcovered : covered = [r])
      (hnodes : e.nodes = (c.singleSource r z).nodes)
      (htoken : catalog.FindsAt r.token workspace i r.layer)
      (hname : catalog.FindsAt r.layer.qualifiedName none i r.layer)
      (hasked : ∀ t ∈ (c.singleSource r z).templates, ∀ name, ("layer", name) ∈ t.params
        ↔ RequestedLayer.fetching c.tcrs r.layer = .wmts ∧ name = r.layer.qualifiedName)
  /-- Several layers are one image, and no cache is asked. -/
  | combined (hmany : 2 ≤ covered.length)
      (hnodes : e.nodes = (c.combinedSource covered).nodes)
      (hasked : ∀ t ∈ (c.combinedSource covered).templates, ∀ name, ("layer", name) ∉ t.params)

end ExtentContext

namespace Publisher

variable {p : Publisher} {r : Request} {layers : List RequestedLayer} {d : Document}

private theorem document_isAddressed (hplain : p.catalog.HasPlainWorkspaces)
    (hlayers : p.resolveLayers r = .ok layers) (h : p.document r = .ok d) :
    List.Forall₂ ((p.extentContext r layers).IsAddressedOver p.catalog r.workspace)
      ((p.extentContext r layers).cover layers) d.extents := by
  rw [document_eq hlayers] at h
  obtain ⟨extents, hextents, rfl⟩ := map_eq_ok_iff.mp h
  refine ExtentContext.forall₂_cover hextents (fun hmany => ?_) fun l hl z alone => ?_
  · refine .combined hmany ExtentContext.nodes_combined fun t ht name hmem => ?_
    obtain ⟨hfetching, _⟩ := (ImageSource.mem_layer_templates ht).mp hmem
    cases hfetching
  · obtain ⟨i, htoken⟩ := Catalog.exists_findsAt (find?_of_resolveLayers hlayers hl)
    exact .single l z i rfl rfl htoken (htoken.qualifiedName hplain) fun t ht name =>
      ImageSource.mem_layer_templates ht

end Publisher

/-- **Lookup is stable under qualification.** The qualified name of the entry that a lookup finds
leads to the same place without a preference, and so do the templates that ask a tile cache for it.
-/
theorem Catalog.lookup_isStable {c : Catalog} (hplain : c.HasPlainWorkspaces) :
    (∀ token preferred l, c.find? token preferred = some l
      ↔ ∃ i, c.FindsAt token preferred i l)
    ∧ (∀ token preferred i j l l', c.FindsAt token preferred i l →
      c.FindsAt token preferred j l' → i = j ∧ l = l')
    ∧ (∀ token preferred i l, c.FindsAt token preferred i l →
      c.FindsAt l.qualifiedName none i l ∧ c.find? l.qualifiedName none = some l)
    ∧ ∀ (p : Publisher) (r : Request) (layers : List RequestedLayer) (d : Document),
      p.catalog = c → p.resolveLayers r = .ok layers → p.document r = .ok d →
      List.Forall₂ ((p.extentContext r layers).IsAddressedOver c r.workspace)
        ((p.extentContext r layers).cover layers) d.extents := by
  refine ⟨fun token preferred l => find?_eq_some_iff, fun token preferred i j l l' h h' => ?_,
    fun token preferred i l h => ?_, ?_⟩
  · have hfound := h.find?_eq.symm.trans h'.find?_eq
    exact ⟨h.place_unique h', Option.some.inj hfound⟩
  · have hname := h.qualifiedName hplain
    exact ⟨hname, hname.find?_eq⟩
  · rintro p r layers d rfl hlayers hdocument
    exact p.document_isAddressed hplain hlayers hdocument

/-- Of four entries of one name, in `a`, in `b`, in no workspace and again in `b`, the second is
found in `b` and asked for as `b:roads`. -/
theorem Catalog.lookup_isStable_roads : ∃ (p : Publisher) (r : Request) (roads : RequestedLayer)
    (d : Document), p.catalog.entries.map Layer.name = ["roads", "roads", "roads", "roads"]
    ∧ p.catalog.entries.map Layer.workspace = [some "a", some "b", none, some "b"]
    ∧ p.catalog.entries.map Layer.isGroup = [true, false, false, false]
    ∧ p.catalog.HasPlainWorkspaces
    ∧ r.layers = ["roads"] ∧ r.workspace = some "b" ∧ p.document r = .ok d
    ∧ RequestedLayer.fetching r.tcrs roads.layer = .wmts
    ∧ p.catalog.FindsAt "roads" (some "b") 1 roads.layer
    ∧ p.catalog.FindsAt "b:roads" none 1 roads.layer
    ∧ List.Forall₂ ((p.extentContext r [roads]).IsAddressedOver p.catalog (some "b"))
      [[roads]] d.extents := by
  let roads : Layer := { name := "roads", bounds := Box.world }
  let cached : Layer := { roads with workspace := some "b", useTiles := true, cached := [.osmTile] }
  let p : Publisher :=
    { catalog := ⟨[{ roads with workspace := some "a", kind := .group ["lakes"] }, cached, roads,
        { roads with workspace := some "b" }]⟩
      service := {} }
  let r : Request := { Request.plain ["roads"] .osmTile 1 1 with workspace := some "b" }
  have hplain : p.catalog.HasPlainWorkspaces := by
    unfold Catalog.HasPlainWorkspaces
    decide +kernel
  have hresolve : p.resolveLayers r = .ok [⟨"roads", cached, ""⟩] := by decide +kernel
  obtain ⟨d, hd⟩ := Publisher.exists_document hresolve (by simp) (by simp [RequestedLayer.HasStyle])
  have hfound : p.catalog.FindsAt "roads" (some "b") 1 cached :=
    .preferred "b" (by decide) rfl (by decide +kernel)
  obtain ⟨_, _, hstable, hdocument⟩ := Catalog.lookup_isStable hplain
  have hagain := (hstable "roads" (some "b") 1 cached hfound).1
  have hname : cached.qualifiedName = "b:roads" := by decide
  rw [hname] at hagain
  exact ⟨p, r, ⟨"roads", cached, ""⟩, d, rfl, rfl, rfl, hplain, rfl, rfl, hd, rfl, hfound, hagain,
    hdocument p r _ d rfl hresolve hd⟩

end MapMarkup
