import MapMarkup.Proofs.Extent.Closed
import MapMarkup.Proofs.Zoom

/-!
# The zoom of the extents of a document

Every extent has one input for the zoom, over a range of levels that is ordered and within the
pyramid, and with the deepest level of the range for its value (`Publisher.document_zoom`). For a
single layer it is the range of the scales of the style that is in effect, whatever numbers these
scales are; several layers together have all levels.
-/

namespace MapMarkup

/-- The extent has one input for the zoom, which takes the levels of the range and holds the deepest
of them. -/
def Extent.HasZoom (e : Extent) (z : ZoomRange) : Prop :=
  ∃ i : Input, e.inputs.filter (fun i => i.type = .zoom) = [i] ∧ i.min = some (Float.ofNat z.min)
    ∧ i.max = some (Float.ofNat z.max) ∧ i.value = some (toString z.max)
    ∧ i.value = i.max.map Decimal.text

/-- The range of levels is that of the scales of the layer's style, if it is a single layer, and all
of the pyramid for several layers. -/
structure IsZoomOf (t : Tcrs) (covered : List RequestedLayer) (z : ZoomRange) : Prop where
  single : ∀ r, covered = [r] → ∃ style, r.layer.effectiveStyle r.style = .ok style
    ∧ z = ZoomRange.ofScales t (style.bind Style.scales)
  several : 2 ≤ covered.length → z = ZoomRange.native

private theorem text_ofNat_level :
    ∀ z ≤ deepestZoom, Decimal.text (Float.ofNat z) = toString z := by
  decide +kernel

theorem ImageSource.hasZoom {e : Extent} {s : ImageSource} (h : e.nodes = s.nodes)
    (hvalid : s.zoom.IsValid) : e.HasZoom s.zoom := by
  refine ⟨_, filter_zoom h, rfl, rfl, rfl, ?_⟩
  rw [Input.zoom, Option.map_some, text_ofNat_level _ hvalid.le_deepest]

private theorem RequestedLayer.isZoomOf {r : RequestedLayer} {t : Tcrs} {z : ZoomRange}
    (h : r.zoom t = .ok z) : z.IsValid ∧ IsZoomOf t [r] z := by
  unfold zoom at h
  split at h
  case h_1 style hstyle =>
    obtain rfl := Except.ok.inj h
    refine ⟨ZoomRange.isValid_ofScales .., fun r' hr' => ?_, fun hmany => by simp at hmany⟩
    obtain rfl := List.singleton_inj.mp hr'
    exact ⟨style, hstyle, rfl⟩
  case h_2 => cases h

private theorem ExtentContext.compose_zoom {c : ExtentContext} {layers : List RequestedLayer}
    {es : List Extent} (h : c.compose layers = .ok es) :
    List.Forall₂ (fun covered e => ∃ z : ZoomRange, z.IsValid ∧ e.HasZoom z
      ∧ IsZoomOf c.tcrs covered z) (c.cover layers) es := by
  refine forall₂_cover_zoom h (fun hmany => ?_) fun r _ z hz alone => ?_
  · refine ⟨ZoomRange.native, ZoomRange.isValid_native,
      ImageSource.hasZoom nodes_combined ZoomRange.isValid_native, fun r hr => ?_, fun _ => rfl⟩
    rw [hr] at hmany
    simp at hmany
  · obtain ⟨hvalid, hzoom⟩ := RequestedLayer.isZoomOf hz
    exact ⟨z, hvalid, ImageSource.hasZoom (s := c.singleSource r z) rfl hvalid, hzoom⟩

namespace Publisher

/-- **Zoom inputs are ranges of levels.** Each extent of a document has one input for the zoom,
ordered and within the pyramid, with the levels that the scales of a single layer's effective style
have. -/
theorem document_zoom :
    (∀ (p : Publisher) (r : Request) (d : Document), p.document r = .ok d →
      ∃ layers, p.resolveLayers r = .ok layers
        ∧ List.Forall₂ (fun covered e => ∃ z : ZoomRange, z.IsValid ∧ e.HasZoom z
          ∧ IsZoomOf r.tcrs covered z) ((p.extentContext r layers).cover layers) d.extents)
    ∧ (∀ t : Tcrs, ZoomRange.ofScales t none = ⟨0, 21⟩)
    ∧ (∀ (t : Tcrs) (scales : ScaleRange), scales.maxDenominator = none →
      (ZoomRange.ofScales t (some scales)).min = 0)
    ∧ (∀ (t : Tcrs) (scales : ScaleRange), scales.minDenominator = none →
      (ZoomRange.ofScales t (some scales)).max = 21)
    ∧ (∀ low high : Option Int, (ZoomRange.clamp low high).IsValid)
    ∧ ∀ low high : Option Int, 0 ≤ low.getD 0 → low.getD 0 ≤ high.getD 21 → high.getD 21 ≤ 21 →
      ZoomRange.clamp low high = ⟨(low.getD 0).toNat, (high.getD 21).toNat⟩ := by
  refine ⟨?_, fun _ => rfl, fun _ _ => ZoomRange.ofLevels_min, fun _ _ => ZoomRange.ofLevels_max,
    ZoomRange.isValid_clamp, fun _ _ => ZoomRange.clamp_eq⟩
  intro p r d h
  obtain ⟨layers, hlayers, hassemble⟩ := bind_eq_ok_iff.mp h
  obtain ⟨es, hes, rfl⟩ := map_eq_ok_iff.mp hassemble
  exact ⟨layers, hlayers, ExtentContext.compose_zoom hes⟩

/-- A style whose greatest denominator is negative is drawn at the deepest level alone. -/
theorem document_zoom_negative : ∃ (p : Publisher) (r : Request) (d : Document)
    (lakes : RequestedLayer) (e : Extent), p.document r = .ok d ∧ p.resolveLayers r = .ok [lakes]
    ∧ d.extents = [e] ∧ e.HasZoom ⟨21, 21⟩ := by
  let style : Style := { name := "close", scales := some ⟨none, some (-1)⟩ }
  let lakes : RequestedLayer :=
    ⟨"lakes", { name := "lakes", bounds := Box.world, styles := [style] }, "close"⟩
  let p : Publisher := { catalog := ⟨[lakes.layer]⟩, service := {} }
  let r : Request := { Request.plain ["lakes"] .osmTile 10 10 with styles := ["close"] }
  have hresolve : p.resolveLayers r = .ok [lakes] := by decide +kernel
  obtain ⟨d, hd⟩ := exists_document hresolve (by simp)
    (by simp [lakes, style, RequestedLayer.HasStyle])
  obtain ⟨layers, hlayers, hzooms⟩ := document_zoom.1 p r d hd
  obtain rfl := Except.ok.inj (hlayers.symm.trans hresolve)
  obtain ⟨e, _, ⟨z, hvalid, hz, hof⟩, hrest, hextents⟩ := List.forall₂_cons_left_iff.mp hzooms
  cases hrest
  obtain ⟨found, hfound, rfl⟩ := hof.single lakes rfl
  obtain rfl := Except.ok.inj hfound
  have hlevels : ZoomRange.ofScales .osmTile (some ⟨none, some (-1)⟩) = ⟨21, 21⟩ := by
    decide +kernel
  exact ⟨p, r, d, lakes, e, hd, hresolve, hextents, hlevels ▸ hz⟩

end Publisher

end MapMarkup
