import MapMarkup.Proofs.Extent.Closed
import MapMarkup.Proofs.GetMap.DocumentUrl
import MapMarkup.Proofs.Template.Decoded

/-!
# The links of extents read as URLs

The templates of a document hold the names, styles and language of the request, names of the
catalog and the image format of the service. A service that reads such a link takes them apart again
parameter by parameter: `Publisher.document_isRead`. It reads what the document was made of when all
of these texts pass through a form as they are, and only then. The URLs in the head encode their
texts and have no such condition; a language with a `&` shows the difference
(`Publisher.document_language_splits`).
-/

namespace MapMarkup

/-- The texts of the source are those of the layers that it shows, in the context of a document. -/
structure ImageSource.Shows (s : ImageSource) (c : ExtentContext)
    (covered : List RequestedLayer) : Prop where
  layers : s.layers = Text.join ',' (covered.map RequestedLayer.token)
  queryLayers : ∀ q ∈ s.queryLayers, q = Text.join ','
    ((covered.filter fun r => r.layer.queryable).map RequestedLayer.token)
  styles : s.styles = stylesParam (covered.map RequestedLayer.style)
  cacheLayer : s.fetching = .wmts → ∃ r, covered = [r] ∧ s.cacheLayer = r.layer.qualifiedName
  imageFormat : s.imageFormat = c.imageFormat
  language : s.language = c.language

namespace ExtentContext

/-- The links of the extent are templates that show the layers, each read as it is filled in. -/
def IsReadOver (c : ExtentContext) (covered : List RequestedLayer) (e : Extent) : Prop :=
  ∃ s : ImageSource, s.Shows c covered
    ∧ e.links.map Link.tref = s.templates.map (fun t => some t.text)
    ∧ ∀ t ∈ s.templates, s.IsRead t

variable {c : ExtentContext} {layers : List RequestedLayer}

theorem join_singleton (token : String) : Text.join ',' [token] = token := by
  rw [Text.join, List.map_singleton, Text.joinFields, String.ofList_toList]

private theorem stylesParam_singleton (style : String) : stylesParam [style] = style := by
  unfold stylesParam
  split
  case isTrue h =>
    rw [List.all_eq_true] at h
    exact (of_decide_eq_true (h style List.mem_cons_self)).symm
  case isFalse => exact join_singleton style

private theorem shows_singleSource (r : RequestedLayer) (z : ZoomRange) :
    (c.singleSource r z).Shows c [r] where
  layers := (join_singleton r.token).symm
  queryLayers q hq := by
    unfold singleSource at hq
    dsimp only at hq
    split at hq
    case isTrue hqueryable =>
      cases hq
      have hfilter : [r].filter (fun r => r.layer.queryable) = [r] := by simp [hqueryable]
      rw [hfilter]
      exact (join_singleton r.token).symm
    case isFalse => cases hq
  styles := (stylesParam_singleton r.style).symm
  cacheLayer _ := ⟨r, rfl, rfl⟩
  imageFormat := rfl
  language := rfl

private theorem shows_combinedSource : (c.combinedSource layers).Shows c layers where
  layers := rfl
  queryLayers q hq := by
    unfold combinedSource at hq
    dsimp only at hq
    split at hq
    case isTrue => cases hq
    case isFalse =>
      cases hq
      rfl
  styles := rfl
  cacheLayer hfetching := nomatch hfetching
  imageFormat := rfl
  language := rfl

/-- The base and the servers of the layers leave the start of a query to the templates. -/
structure IsUnasked (c : ExtentContext) (layers : List RequestedLayer) : Prop where
  base : '?' ∉ c.base.toList
  patterns : ∀ r ∈ layers, ∀ sharding ∈ r.layer.activeSharding, '?' ∉ sharding.pattern.toList

private theorem isReadOver_single (h : c.IsUnasked layers) {r : RequestedLayer} (hr : r ∈ layers)
    (z : ZoomRange) (alone : Bool) : c.IsReadOver [r] (c.single r z alone) := by
  have hbase : '?' ∉ (c.singleSource r z).templateBase.toList :=
    ImageSource.notMem_templateBase h.base (h.patterns r hr)
  exact ⟨c.singleSource r z, shows_singleSource r z, ImageSource.trefs_eq rfl,
    fun t ht => ImageSource.isRead_templates ht hbase⟩

private theorem isReadOver_combined (h : c.IsUnasked layers) :
    c.IsReadOver layers (c.combined layers) := by
  have hpattern : ∀ sharding ∈ commonSharding layers, '?' ∉ sharding.pattern.toList := by
    intro sharding hsharding
    obtain ⟨r, hr, hactive⟩ := exists_of_commonSharding hsharding
    exact h.patterns r hr sharding hactive
  have hbase : '?' ∉ (c.combinedSource layers).templateBase.toList :=
    ImageSource.notMem_templateBase h.base hpattern
  exact ⟨c.combinedSource layers, shows_combinedSource, ImageSource.trefs_eq nodes_combined,
    fun t ht => ImageSource.isRead_templates ht hbase⟩

private theorem compose_isReadOver (h : c.IsUnasked layers) {es : List Extent}
    (hcompose : c.compose layers = .ok es) : List.Forall₂ c.IsReadOver (c.cover layers) es :=
  forall₂_cover hcompose (fun _ => isReadOver_combined h) fun _ hr => isReadOver_single h hr

end ExtentContext

namespace Publisher

/-- **How the links of a document are read.** Every link is read parameter by parameter, and as its
parameters, each once and in order, exactly when the texts of the layers pass through a form. -/
theorem document_isRead {p : Publisher} {r : Request} {d : Document} (h : p.document r = .ok d)
    (hurl : '?' ∉ p.service.baseUrl.toList) (hworkspace : ∀ w ∈ r.workspace, '?' ∉ w.toList)
    (hpatterns : ∀ l ∈ p.catalog.entries, ∀ sharding ∈ l.activeSharding,
      '?' ∉ sharding.pattern.toList) :
    ∃ layers, p.resolveLayers r = .ok layers
      ∧ List.Forall₂ (p.extentContext r layers).IsReadOver
          ((p.extentContext r layers).cover layers) d.extents := by
  obtain ⟨layers, hlayers, hassemble⟩ := bind_eq_ok_iff.mp h
  obtain ⟨extents, hextents, rfl⟩ := map_eq_ok_iff.mp hassemble
  have hunasked : (p.extentContext r layers).IsUnasked layers :=
    ⟨Service.notMem_base hurl hworkspace,
      fun l hl => hpatterns l.layer (layer_mem_of_resolveLayers hlayers hl)⟩
  exact ⟨layers, hlayers, ExtentContext.compose_isReadOver hunasked hextents⟩

theorem document_isRead_lakes : ∃ (p : Publisher) (r : Request) (d : Document)
    (lakes roads : RequestedLayer), p.document r = .ok d ∧ p.resolveLayers r = .ok [lakes, roads]
    ∧ r.language = some "fr" ∧ roads.style = "d&b" ∧ lakes.layer.queryable = true
    ∧ List.Forall₂ (p.extentContext r [lakes, roads]).IsReadOver [[lakes], [roads]] d.extents := by
  let lakes : Layer :=
    { name := "lakes", bounds := Box.world, useTiles := true, cached := [.osmTile],
      sharding := some ⟨true, ["a", "b"], "\x7bs\x7d.h"⟩ }
  let roads : Layer :=
    { name := "roads", bounds := Box.world, queryable := false, styles := [⟨"d&b", none⟩] }
  have hresolve : (Publisher.mk ⟨[lakes, roads]⟩ { multiExtent := true }
        Sampling.usual.projector).resolveLayers
          { Request.plain ["lakes", "roads"] .osmTile 1 1 with
            styles := ["", "d&b"], language := some "fr" }
      = .ok [⟨"lakes", lakes, ""⟩, ⟨"roads", roads, "d&b"⟩] := by
    decide +kernel
  obtain ⟨d, hd⟩ := exists_document hresolve (by simp)
    (by simp [RequestedLayer.HasStyle, lakes, roads])
  obtain ⟨layers, hlayers, hread⟩ := document_isRead hd (by decide) (by decide) (by
    intro l hl sharding hsharding
    rcases List.mem_cons.mp hl with rfl | hl
    · cases hsharding
      decide
    · rw [List.mem_singleton.mp hl] at hsharding
      cases hsharding)
  rw [hresolve] at hlayers
  cases hlayers
  exact ⟨_, _, _, _, _, hd, hresolve, rfl, rfl, rfl, hread⟩

/-- The language of a request is read as a language and a second list of layers. -/
theorem document_language_splits : ∃ (p : Publisher) (query : String) (r : Request)
    (d : Document), '?' ∉ p.service.baseUrl.toList
    ∧ (Parameters.read query >>= Parameters.toRequest) = .ok r ∧ r.layers = ["lakes"]
    ∧ r.language = some "fr&layers=roads" ∧ p.document r = .ok d
    ∧ ∃ e ∈ d.extents, ∃ l ∈ e.links, ∃ tref ∈ l.tref,
      (Query.pairs tref).filter (fun pair => pair.1 = "layers")
          = [("layers", "lakes"), ("layers", "roads")]
        ∧ ("language", "fr&layers=roads") ∉ Query.pairs tref := by
  let lakes : RequestedLayer := ⟨"lakes", { name := "lakes", bounds := Box.world }, ""⟩
  let r : Request :=
    { Request.plain ["lakes"] .osmTile 10 10 with language := some "fr&layers=roads" }
  let p : Publisher := { catalog := ⟨[lakes.layer]⟩, service := {} }
  have hr : (Parameters.read
      "LAYERS=lakes&CRS=OSMTILE&WIDTH=10&HEIGHT=10&LANGUAGE=fr%26layers%3Droads"
        >>= Parameters.toRequest) = .ok r := by
    rw [Parameters.read_toRequest]
    decide +kernel
  have hresolve : p.resolveLayers r = .ok [lakes] := by decide +kernel
  have hzoom : lakes.zoom .osmTile = .ok (ZoomRange.ofScales .osmTile none) := rfl
  have hdocument : p.document r = .ok
      { head := p.head r [lakes]
        extents := [(p.extentContext r [lakes]).single lakes (ZoomRange.ofScales .osmTile none)
          true] } := by
    rw [document_eq hresolve, ExtentContext.compose_one hzoom]
    rfl
  let s : ImageSource :=
    (p.extentContext r [lakes]).singleSource lakes (ZoomRange.ofScales .osmTile none)
  have hlink : Link.template .image s.imageTemplate.text ∈
      ((p.extentContext r [lakes]).single lakes (ZoomRange.ofScales .osmTile none) true).links := by
    rw [ImageSource.links_eq (s := s) rfl]
    exact List.mem_cons_self
  exact ⟨p, _, r, _, by decide, hr, rfl, rfl, hdocument, _, List.mem_cons_self, _, hlink, _, rfl,
    by decide +kernel⟩

end Publisher

end MapMarkup
