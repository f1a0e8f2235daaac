import MapMarkup.Proofs.Catalog
import MapMarkup.Proofs.Preview
import MapMarkup.Proofs.Publisher.Advertised

/-!
# What a preview page loads

A preview page loads its map from a URL that it holds as the source of its layer. The URL is within
the workspace of the request, or else within that of its only layer, so a bare name may be looked up
with a preference there that the request did not have. Both lookups end at the same entry
(`Catalog.find?_ownWorkspace`): an entry that is the first of its name is the first of its name in
its own workspace. `Publisher.preview_loads` puts this together with the URL read back as a request.
-/

namespace MapMarkup

/-! ### Looking up in the workspace of an entry -/

namespace Catalog

/-- An entry that is found without a preference is found if its own workspace is preferred. -/
theorem find?_ownWorkspace {c : Catalog} {l : Layer} {token : String}
    (h : c.find? token none = some l) : c.find? token l.workspace = some l := by
  obtain ⟨i, h⟩ := exists_findsAt h
  apply FindsAt.find?_eq (i := i)
  cases h with
  | qualified workspace name hcolon htoken hfirst =>
    exact .qualified workspace name hcolon htoken hfirst
  | preferred workspace hbare hpreferred => cases hpreferred
  | anywhere hbare hmissing hfirst =>
    cases hworkspace : l.workspace with
    | none => exact .anywhere hbare nofun hfirst
    | some workspace =>
      exact .preferred workspace hbare rfl
        (hfirst.strengthen ⟨hworkspace, hfirst.holds⟩ fun _ hin => hin.2)

end Catalog

/-! ### Loading -/

private theorem toRequest_previewSource {parameters : Parameters} {base : String} {r : Request}
    {b : Box} (hr : parameters.toRequest = .ok r) (hbox : r.bbox = some b)
    (hbase : '?' ∉ base.toList) :
    (Parameters.read (previewSource base r r.tcrs b) >>= Parameters.toRequest) = .ok r.linked := by
  rw [Parameters.read_toRequest, ofQuery_previewSource hbase, toRequest_linked hr hbox]

private theorem isPrefix_previewSource (base : String) (r : Request) (t : Tcrs) (b : Box) :
    (base ++ "wms?").toList <+: (previewSource base r t b).toList := by
  unfold previewSource Query.url
  rw [String.toList_ofList, String.toList_append, String.toList_append]
  exact ⟨_, by rw [List.append_assoc, List.append_assoc]; rfl⟩

namespace Publisher

variable {p : Publisher} {r : Request} {layers : List RequestedLayer}

private theorem resolveLayer_ownWorkspace {token style : String} {l : RequestedLayer}
    (hworkspace : r.workspace = none) (h : p.resolveLayer r token style = .ok l) :
    p.resolveLayer { r with workspace := l.layer.workspace } token style = .ok l := by
  unfold resolveLayer at h ⊢
  rw [hworkspace] at h
  split at h
  case h_1 layer hfound =>
    cases h
    dsimp only
    rw [Catalog.find?_ownWorkspace hfound]
  case h_2 => cases h

/-- The workspace that a preview page adds to its URL does not change what is found. -/
theorem resolveLayers_onlyWorkspace (h : p.resolveLayers r = .ok layers) :
    p.resolveLayers { r with workspace := r.workspace.or (onlyWorkspace layers) } = .ok layers := by
  cases hworkspace : r.workspace with
  | some w =>
    rw [Option.some_or, ← hworkspace]
    exact h
  | none =>
    rw [Option.none_or]
    match layers with
    | [] | _ :: _ :: _ =>
      unfold onlyWorkspace
      rw [← hworkspace]
      exact h
    | [only] =>
      obtain ⟨⟨token, i⟩, rest, honly, hrest, hlayers⟩ :=
        List.forall₂_cons_right_iff.mp (mapM_eq_ok_iff.mp h)
      cases hrest
      unfold resolveLayers onlyWorkspace
      dsimp only
      rw [hlayers, mapM_eq_ok_iff]
      exact .cons (resolveLayer_ownWorkspace hworkspace honly) .nil

/-- **What a preview page loads.** The layer of a page is loaded from a URL that asks for the same
map as the request and, in the workspace that it is within, finds the same entries in the same
styles. -/
theorem preview_loads {parameters : Parameters} {asked : Request} {b : Box}
    {workspace : Option String} {page : String} (hasked : parameters.toRequest = .ok asked)
    (hbox : asked.bbox = some b) (hurl : '?' ∉ p.service.baseUrl.toList)
    (hworkspace : ∀ w ∈ workspace, '?' ∉ w.toList)
    (hentries : ∀ l ∈ p.catalog.entries, ∀ w ∈ l.workspace, '?' ∉ w.toList)
    (h : p.preview { asked with workspace } = .ok page) :
    ∃ (layers : List RequestedLayer) (source : String) (loaded : Request),
      p.resolveLayers { asked with workspace } = .ok layers
      ∧ layerSource? page = some source
      ∧ (p.service.base (workspace.or (onlyWorkspace layers)) ++ "wms?").toList <+: source.toList
      ∧ (Parameters.read source >>= Parameters.toRequest) = .ok loaded
      ∧ loaded.layers = asked.layers ∧ loaded.styles = asked.styles ∧ loaded.tcrs = asked.tcrs
      ∧ loaded.bbox = some b ∧ loaded.width = asked.width ∧ loaded.height = asked.height
      ∧ loaded.language = asked.language
      ∧ p.resolveLayers { loaded with workspace := workspace.or (onlyWorkspace layers) }
        = .ok layers := by
  obtain ⟨layers, hlayers, hpage⟩ := bind_eq_ok_iff.mp h
  obtain ⟨d, _, hpage⟩ := bind_eq_ok_iff.mp hpage
  have hshown := (p.previewOf { asked with workspace } layers d).layerSource?_page
  rw [Except.ok.inj hpage] at hshown
  have hbase : '?' ∉ (p.service.base (workspace.or (onlyWorkspace layers))).toList := by
    refine Service.notMem_base hurl fun w hw => ?_
    rcases Option.or_eq_some_iff.mp hw with hw | ⟨_, hw⟩
    · exact hworkspace w hw
    · exact notMem_onlyWorkspace hlayers hentries w hw
  have hbounds : p.bounds { asked with workspace } layers = b := by
    unfold bounds
    rw [hbox]
  have hsource : (p.previewOf { asked with workspace } layers d).source = previewSource
      (p.service.base (workspace.or (onlyWorkspace layers))) asked asked.tcrs b := by
    unfold previewOf
    rw [hbounds]
    rfl
  rw [hsource] at hshown
  have hfound := resolveLayers_onlyWorkspace hlayers
  refine ⟨layers, _, asked.linked, hlayers, hshown, isPrefix_previewSource _ _ _ _,
    toRequest_previewSource hasked hbox hbase, rfl, rfl, rfl, hbox, rfl, rfl, rfl, hfound⟩

/-- Roads are published in two workspaces, and the page loads them from the one they are found in.
-/
theorem preview_loads_roads : ∃ (p : Publisher) (query page source : String)
    (asked loaded : Request) (roads : RequestedLayer),
    (Parameters.read query >>= Parameters.toRequest) = .ok asked
    ∧ p.preview asked = .ok page ∧ layerSource? page = some source
    ∧ "http://localhost:8080/geoserver/b/wms?".toList <+: source.toList
    ∧ (Parameters.read source >>= Parameters.toRequest) = .ok loaded
    ∧ loaded.bbox = some ⟨-1.5, 0, 2.25, 8⟩ ∧ loaded.language = some "fr"
    ∧ p.resolveLayers { loaded with workspace := some "b" } = .ok [roads]
    ∧ p.resolveLayers { asked with workspace := some "a" } ≠ .ok [roads] := by
  let entry (workspace : String) : Layer :=
    { name := "roads", workspace := some workspace, styles := [⟨"night", none⟩],
      bounds := Box.world }
  let roads : RequestedLayer := ⟨"roads", entry "b", "night"⟩
  let asked : Request :=
    { Request.plain ["roads"] .osmTile 10 20 with
      styles := ["night"], bbox := some ⟨-1.5, 0, 2.25, 8⟩, output := .preview,
      language := some "fr" }
  let p : Publisher := { catalog := ⟨[entry "b", entry "a"]⟩, service := {} }
  have hasked : (Parameters.read ("LAYERS=roads&STYLES=night&CRS=OSMTILE&BBOX=-1.5,0,2.25,8"
      ++ "&WIDTH=10&HEIGHT=20&FORMAT=text/html&LANGUAGE=fr") >>= Parameters.toRequest)
      = .ok asked := by
    rw [Parameters.read_toRequest]
    decide +kernel
  have hresolve : p.resolveLayers asked = .ok [roads] := by decide +kernel
  have hother : p.resolveLayers { asked with workspace := some "a" } ≠ .ok [roads] := by
    decide +kernel
  have hstyle : ∀ l ∈ [roads], l.HasStyle := by simp [roads, entry, RequestedLayer.HasStyle]
  obtain ⟨d, hd⟩ := exists_document hresolve (by simp) hstyle
  obtain ⟨page, hpage⟩ : ∃ page, p.preview asked = .ok page := by
    rw [exists_ok_iff]
    intro e he
    rw [preview_eq_error_iff_document, hd] at he
    cases he
  have hunscoped : p.preview { asked with workspace := none } = .ok page := hpage
  have hparameters := hasked
  rw [Parameters.read_toRequest] at hparameters
  obtain ⟨layers, source, loaded, hlayers, hsource, hbase, hloaded, _, _, _, hbox, _, _, hlanguage,
    hfound⟩ := preview_loads hparameters rfl (by decide) (by decide) (by decide) hunscoped
  have hworkspace : (none : Option String).or (onlyWorkspace [roads]) = some "b" := rfl
  have hendpoint : p.service.base (some "b") ++ "wms?"
      = "http://localhost:8080/geoserver/b/wms?" := by
    decide +kernel
  obtain rfl := Except.ok.inj (hlayers.symm.trans hresolve)
  rw [hworkspace] at hbase hfound
  rw [hendpoint] at hbase
  exact ⟨p, _, page, source, asked, loaded, roads, hasked, hpage, hsource, hbase, hloaded, hbox,
    hlanguage, hfound, hother⟩

end Publisher

end MapMarkup
