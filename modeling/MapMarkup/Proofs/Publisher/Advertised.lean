import MapMarkup.Proofs.Publisher.Bounds
import MapMarkup.Proofs.Publisher.SelfLink

/-!
# The URLs that a document advertises

A document links to itself and to the same map in other tiled systems, and its preview page loads it
from a URL. All of them are made from the request and a box, and reading them can only fail at the
box, which has to be finite and must not be inverted (`isAskedBy_iff`). The boxes of links to other
tiled systems are projected, so that these links are always accepted. The box of the other URLs is
that of the document's bounds. It is finite, and inverted only if the boxes of the catalog are out
of order and the request asks for them in degrees (`Publisher.document_links_accepted`). A catalog
file may hold such a box (`Publisher.document_link_refused`).
-/

namespace MapMarkup

/-! ### Reading the URLs of a request -/

/-- The URL is accepted as a request for the same layers in the same styles, in a tiled system. -/
def Request.IsAskedBy (r : Request) (t : Tcrs) (url : String) : Prop :=
  ∃ asked, (Parameters.read url >>= Parameters.toRequest) = .ok asked ∧ asked.tcrs = t
    ∧ asked.layers = r.layers ∧ asked.styles = r.styles

theorem Request.IsChecked.withWorkspace {r : Request} (workspace : Option String)
    (h : r.IsChecked) : Request.IsChecked { r with workspace } :=
  ⟨h.layers_ne_nil, h.layers_isToken, h.styles_length, h.styles_isToken, h.width_bounds,
    h.height_bounds, h.language_not_blank⟩

theorem isInverted_of_toRequest {r asked : Request} {t : Tcrs} {b : Box}
    (hfinite : b.isFinite = true) (h : (documentParameters r t b).toRequest = .ok asked) :
    b.isInverted = false := by
  obtain ⟨order, hread⟩ := Parameters.readBox_of_toRequest h
  have hcrs : (documentParameters r t b).readCrs "1.3.0" = .ok (t, .xy) := resolveCrs_code t "1.3.0"
  have horder : order = .xy := (Prod.mk.inj (Except.ok.inj (hread.1.symm.trans hcrs))).2
  have hbox := hread.2
  rw [horder, Parameters.readBox_eq_ok_iff] at hbox
  obtain ⟨hnone, _⟩ | ⟨text, box, htext, hparam, _⟩ := hbox
  · cases hnone
  · cases htext
    cases hinverted : b.isInverted with
    | false => rfl
    | true =>
        rw [Box.ofParam_toParam_of_isFinite hfinite, hinverted, if_pos rfl] at hparam
        cases hparam

/-- A URL with the parameters of a document's URL is accepted exactly when its box is not inverted.
-/
theorem isAskedBy_iff {r : Request} {t : Tcrs} {b : Box} {url : String} (hr : r.IsChecked)
    (hfinite : b.isFinite = true) (hurl : Parameters.ofQuery url = documentParameters r t b) :
    r.IsAskedBy t url ↔ b.isInverted = false := by
  unfold Request.IsAskedBy
  rw [Parameters.read_toRequest, hurl]
  constructor
  · rintro ⟨asked, hasked, _⟩
    exact isInverted_of_toRequest hfinite hasked
  · intro hinverted
    have hordered := Box.isOrdered_of_isInverted hfinite hinverted
    exact ⟨_, toRequest_documentParameters hr t hfinite hordered.x hordered.y, rfl, rfl, rfl⟩

namespace Publisher

variable {p : Publisher} {r : Request} {layers : List RequestedLayer} {d : Document}

private theorem isAskedBy_alternate {s : Sampling} (hprojector : p.projector = s.projector)
    (hr : r.IsChecked) {base : String} (hbase : '?' ∉ base.toList) {b : Box} {l : Link}
    (hl : l ∈ p.alternateLinks base r b) :
    ∃ t href, l.projection = some t ∧ l.href = some href ∧ r.IsAskedBy t href := by
  obtain ⟨⟨t, box⟩, hbox, rfl⟩ := List.mem_map.mp hl
  obtain ⟨target, htarget, himage⟩ := List.mem_filterMap.mp hbox
  have hother : target ≠ r.tcrs := of_decide_eq_true (List.mem_filter.mp htarget).2
  split at himage
  case h_2 => cases himage
  case h_1 image hproject =>
    cases himage
    rw [hprojector] at hproject
    obtain ⟨hfinite, hordered⟩ := Sampling.projector_isOrdered (sameSpace_crs hother.symm) hproject
    refine ⟨t, _, rfl, rfl, (isAskedBy_iff hr hfinite (ofQuery_documentUrl hbase r t box)).mpr ?_⟩
    exact Box.isInverted_of_le hordered.x hordered.y

theorem notMem_onlyWorkspace (hlayers : p.resolveLayers r = .ok layers)
    (hentries : ∀ l ∈ p.catalog.entries, ∀ w ∈ l.workspace, '?' ∉ w.toList) :
    ∀ w ∈ onlyWorkspace layers, '?' ∉ w.toList := by
  intro w hw
  match layers with
  | [] => cases hw
  | [only] => exact hentries _ (layer_mem_of_resolveLayers hlayers List.mem_cons_self) w hw
  | _ :: _ :: _ => cases hw

/-- **The URLs that a document advertises.** Links to other tiled systems are accepted there, and
the self link and the source of the preview page are accepted just when the bounds of the document
are not inverted. -/
theorem document_links_accepted {text query : String} (hfile : Publisher.ofText text = .ok p)
    (hread : (Parameters.read query >>= Parameters.toRequest) = .ok { r with workspace := none })
    (hurl : '?' ∉ p.service.baseUrl.toList) (hworkspace : ∀ w ∈ r.workspace, '?' ∉ w.toList)
    (hentries : ∀ l ∈ p.catalog.entries, ∀ w ∈ l.workspace, '?' ∉ w.toList)
    (h : p.document r = .ok d) :
    ∃ layers, p.resolveLayers r = .ok layers
      ∧ p.preview r = .ok (p.previewOf r layers d).page
      ∧ (∀ l ∈ d.head.links, l.rel = .selfStyle → ∃ href, l.href = some href
        ∧ (r.IsAskedBy r.tcrs href ↔ (p.bounds r layers).isInverted = false))
      ∧ (∀ l ∈ d.head.links, l.rel ≠ .selfStyle → ∃ t href, l.projection = some t
        ∧ l.href = some href ∧ r.IsAskedBy t href)
      ∧ (r.IsAskedBy r.tcrs (p.previewOf r layers d).source
        ↔ (p.bounds r layers).isInverted = false)
      ∧ (r.bbox.isSome ∨ r.tcrs ≠ .wgs84
          ∨ (∀ f, CatalogFile.ofText text = .ok f → f.IsOrdered) →
        (p.bounds r layers).isInverted = false) := by
  rw [Parameters.read_toRequest] at hread
  obtain ⟨f, hf, hcatalog, hprojector⟩ := ofText_eq_ok hfile
  obtain ⟨layers, hlayers, hassemble⟩ := bind_eq_ok_iff.mp h
  obtain ⟨es, hes, rfl⟩ := map_eq_ok_iff.mp hassemble
  have hr : r.IsChecked := (Parameters.isChecked_of_toRequest hread).withWorkspace r.workspace
  have hbox : ∀ b ∈ r.bbox, b.isFinite = true ∧ b.IsOrdered :=
    fun b hb => Parameters.isOrdered_of_toRequest hread hb
  have hfinite : (p.bounds r layers).isFinite = true :=
    p.bounds_isFinite layers fun b hb => (hbox b hb).1
  have hbase : '?' ∉ (p.service.base r.workspace).toList := Service.notMem_base hurl hworkspace
  have hsource : '?' ∉ (p.service.base (r.workspace.or (onlyWorkspace layers))).toList := by
    refine Service.notMem_base hurl fun w hw => ?_
    rcases Option.or_eq_some_iff.mp hw with hw | ⟨_, hw⟩
    · exact hworkspace w hw
    · exact notMem_onlyWorkspace hlayers hentries w hw
  refine ⟨layers, hlayers, ?_, fun l hl hself => ?_, fun l hl hother => ?_, ?_, fun hcase => ?_⟩
  · exact bind_eq_ok_iff.mpr ⟨layers, hlayers, bind_eq_ok_iff.mpr ⟨_, hassemble, rfl⟩⟩
  · rcases List.mem_cons.mp hl with rfl | hl
    · exact ⟨_, rfl, isAskedBy_iff hr hfinite (ofQuery_documentUrl hbase _ _ _)⟩
    · obtain ⟨_, _, rfl⟩ := List.mem_map.mp hl
      cases hself
  · rcases List.mem_cons.mp hl with rfl | hl
    · exact absurd rfl hother
    · exact isAskedBy_alternate hprojector hr hbase hl
  · exact isAskedBy_iff hr hfinite (ofQuery_previewSource hsource _ _ _)
  · have hordered : (p.bounds r layers).IsOrdered := by
      refine bounds_isOrdered hprojector (fun b hb => (hbox b hb).2) ?_
      refine hcase.imp_right (Or.imp_right fun hfile l hl => ?_)
      exact (hfile f hf).catalog hcatalog l.layer (layer_mem_of_resolveLayers hlayers hl)
    exact Box.isInverted_of_le hordered.x hordered.y

theorem document_links_accepted_lakes : ∃ (p : Publisher) (text query : String) (r : Request)
    (d : Document), Publisher.ofText text = .ok p
    ∧ (Parameters.read query >>= Parameters.toRequest) = .ok { r with workspace := none }
    ∧ r.bbox = none ∧ r.tcrs = .wgs84 ∧ r.workspace = some "w" ∧ p.document r = .ok d
    ∧ (∀ l ∈ d.head.links, ∃ t href, l.href = some href ∧ r.IsAskedBy t href)
    ∧ ∃ layers, p.preview r = .ok (p.previewOf r layers d).page
      ∧ r.IsAskedBy r.tcrs (p.previewOf r layers d).source := by
  let lakes : Layer := { name := "lakes", workspace := some "w", bounds := ⟨-95, 42, -74, 57⟩ }
  let f : CatalogFile := { service := {}, layers := [lakes], groups := [] }
  let p : Publisher := { catalog := ⟨[lakes]⟩, service := {} }
  let r : Request := (Request.plain ["lakes"] .wgs84 10 20).withWorkspace "w"
  have hf : CatalogFile.ofText ("layers:\n  - name: lakes\n    workspace: w\n"
      ++ "    bbox: \x7b west: -95, south: 42, east: -74, north: 57 \x7d\n") = .ok f := by
    decide +kernel
  have hfile : Publisher.ofText ("layers:\n  - name: lakes\n    workspace: w\n"
      ++ "    bbox: \x7b west: -95, south: 42, east: -74, north: 57 \x7d\n") = .ok p := by
    unfold Publisher.ofText
    rw [hf]
    rfl
  have hlakes : lakes.bounds.IsOrdered := ⟨by decide +kernel, by decide +kernel⟩
  have hordered : f.IsOrdered :=
    ⟨fun l hl => List.mem_singleton.mp hl ▸ hlakes, fun g hg => absurd hg List.not_mem_nil⟩
  have hread : (Parameters.read "LAYERS=lakes&CRS=EPSG:4326&WIDTH=10&HEIGHT=20"
      >>= Parameters.toRequest) = .ok { r with workspace := none } := by
    rw [Parameters.read_toRequest]
    decide +kernel
  have hresolve : p.resolveLayers r = .ok [⟨"lakes", lakes, ""⟩] := by decide +kernel
  obtain ⟨d, hd⟩ := exists_document hresolve (by simp) (by simp [RequestedLayer.HasStyle])
  obtain ⟨layers, _, hpreview, hself, hother, hsource, hcase⟩ :=
    document_links_accepted hfile hread (by decide) (by decide) (by decide) hd
  have hinverted := hcase (.inr (.inr fun f' hf' => by
    rw [hf] at hf'
    cases hf'
    exact hordered))
  refine ⟨p, _, _, r, d, hfile, hread, rfl, rfl, rfl, hd, fun l hl => ?_, layers, hpreview,
    hsource.mpr hinverted⟩
  by_cases hrel : l.rel = .selfStyle
  · obtain ⟨href, hhref, haccepted⟩ := hself l hl hrel
    exact ⟨_, href, hhref, haccepted.mpr hinverted⟩
  · obtain ⟨t, href, _, hhref, haccepted⟩ := hother l hl hrel
    exact ⟨t, href, hhref, haccepted⟩

/-- A file may give a layer an inverted box, with which a document in degrees has a self link that
is refused. -/
theorem document_link_refused : ∃ (p : Publisher) (text query href : String) (r : Request)
    (d : Document), Publisher.ofText text = .ok p ∧ '?' ∉ p.service.baseUrl.toList
    ∧ (Parameters.read query >>= Parameters.toRequest) = .ok r ∧ p.document r = .ok d
    ∧ (∃ l ∈ d.head.links, l.rel = .selfStyle ∧ l.href = some href)
    ∧ ∀ asked, (Parameters.read href >>= Parameters.toRequest) ≠ .ok asked := by
  let lakes : RequestedLayer := ⟨"lakes", { name := "lakes", bounds := ⟨10, 0, -10, 5⟩ }, ""⟩
  let f : CatalogFile := { service := {}, layers := [lakes.layer], groups := [] }
  let p : Publisher := { catalog := ⟨[lakes.layer]⟩, service := {} }
  let r : Request := Request.plain ["lakes"] .wgs84 10 10
  have hf : CatalogFile.ofText ("layers:\n  - name: lakes\n"
      ++ "    bbox: \x7b west: 10, south: 0, east: -10, north: 5 \x7d\n") = .ok f := by
    decide +kernel
  have hfile : Publisher.ofText ("layers:\n  - name: lakes\n"
      ++ "    bbox: \x7b west: 10, south: 0, east: -10, north: 5 \x7d\n") = .ok p := by
    unfold Publisher.ofText
    rw [hf]
    rfl
  have hread : (Parameters.read "LAYERS=lakes&CRS=MapML:WGS84&WIDTH=10&HEIGHT=10"
      >>= Parameters.toRequest) = .ok r := by
    rw [Parameters.read_toRequest]
    decide +kernel
  have hresolve : p.resolveLayers r = .ok [lakes] := by decide +kernel
  have hbounds : (p.bounds r [lakes]).isFinite = true ∧ (p.bounds r [lakes]).isInverted = true := by
    decide +kernel
  have hbase : '?' ∉ (p.service.base none).toList := by decide
  obtain ⟨d, hd⟩ := exists_document hresolve (by simp) (by simp [lakes, RequestedLayer.HasStyle])
  refine ⟨p, _, _, documentUrl (p.service.base none) r .wgs84 (p.bounds r [lakes]), r, d, hfile,
    by decide, hread, hd, ?_, fun asked hasked => ?_⟩
  · rw [document_eq hresolve] at hd
    obtain ⟨es, _, rfl⟩ := map_eq_ok_iff.mp hd
    exact ⟨_, List.mem_cons_self, rfl, rfl⟩
  · rw [Parameters.read_toRequest, ofQuery_documentUrl hbase] at hasked
    have hordered := isInverted_of_toRequest hbounds.1 hasked
    rw [hbounds.2] at hordered
    cases hordered

end Publisher

end MapMarkup
