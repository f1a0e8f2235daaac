import MapMarkup.CatalogFile
import MapMarkup.Proofs.Box.Order
import MapMarkup.Proofs.Extent.Composition
import MapMarkup.Proofs.Reprojection

/-!
# The bounds of a document

A box that was projected is finite and ordered, whatever was projected, because it is put around
finite points. So are the bounds that a document takes from its request. The bounds that it takes
from its layers are always finite, but in degrees they are only as well ordered as the boxes of the
catalog: `Publisher.bounds_isOrdered`. Loading a catalog file keeps its boxes as they are and unites
them, so that ordered boxes in a file give ordered boxes in the catalog (`CatalogFile.IsOrdered`).
-/

namespace MapMarkup

/-! ### Tiled systems -/

theorem sameSpace_crs {t t' : Tcrs} (h : t ≠ t') : t.crs.sameSpace t'.crs = false := by
  cases t <;> cases t' <;> first | rfl | exact absurd rfl h

theorem sameSpace_crs84 {t : Tcrs} : Crs.crs84.sameSpace t.crs = decide (t = .wgs84) := by
  cases t <;> rfl

theorem Tcrs.bounds_isOrdered (t : Tcrs) : t.bounds.isFinite = true ∧ t.bounds.IsOrdered := by
  have hbounds : t.bounds.isFinite = true ∧ t.bounds.minX ≤ t.bounds.maxX
      ∧ t.bounds.minY ≤ t.bounds.maxY := by
    cases t <;> decide +kernel
  exact ⟨hbounds.1, hbounds.2.1, hbounds.2.2⟩

/-! ### Catalog files -/

/-- The boxes of layers and groups are ordered. -/
structure CatalogFile.IsOrdered (f : CatalogFile) : Prop where
  layers : ∀ l ∈ f.layers, l.bounds.IsOrdered
  groups : ∀ g ∈ f.groups, ∀ b ∈ g.bounds, b.IsOrdered

def Catalog.IsOrdered (c : Catalog) : Prop :=
  ∀ l ∈ c.entries, l.bounds.IsOrdered

private theorem GroupEntry.boundsIn_isOrdered {g : GroupEntry} {c : Catalog} {b : Box}
    (hg : ∀ b ∈ g.bounds, b.IsOrdered) (hc : c.IsOrdered) (h : g.boundsIn c = .ok b) :
    b.IsOrdered := by
  unfold boundsIn at h
  cases hbounds : g.bounds with
  | some own =>
      rw [hbounds] at h
      cases h
      exact hg b hbounds
  | none =>
      rw [hbounds] at h
      obtain ⟨boxes, hboxes, h⟩ := bind_eq_ok_iff.mp h
      have hall : ∀ box ∈ boxes, box.IsOrdered := by
        intro box hbox
        obtain ⟨member, _, hmember⟩ := exists_of_mem_mapM hboxes hbox
        unfold memberBounds at hmember
        split at hmember
        case h_1 l hl =>
          cases hmember
          exact hc l (Catalog.mem_of_find? hl)
        case h_2 => cases hmember
      cases boxes with
      | nil => cases h
      | cons first rest =>
          cases h
          rw [List.forall_mem_cons] at hall
          exact List.foldlRecOn rest Box.union hall.1 fun b hb b' hb' => hb.union (hall.2 b' hb')

private theorem GroupEntry.addTo_isOrdered {g : GroupEntry} {c c' : Catalog}
    (hg : ∀ b ∈ g.bounds, b.IsOrdered) (hc : c.IsOrdered) (h : g.addTo c = .ok c') :
    c'.IsOrdered := by
  obtain ⟨b, hb, rfl⟩ := map_eq_ok_iff.mp h
  intro l hl
  rcases List.mem_append.mp hl with hl | hl
  · exact hc l hl
  · rw [List.mem_singleton.mp hl]
    exact boundsIn_isOrdered hg hc hb

theorem CatalogFile.IsOrdered.catalog {f : CatalogFile} {c : Catalog} (hf : f.IsOrdered)
    (h : f.catalog = .ok c) : c.IsOrdered := by
  unfold CatalogFile.catalog at h
  obtain ⟨built, hbuilt, h⟩ := bind_eq_ok_iff.mp h
  split at h
  case h_2 => cases h
  case h_1 =>
    cases h
    exact foldlM_invariant (fun g hg _ _ => GroupEntry.addTo_isOrdered (hf.groups g hg)) hbuilt
      hf.layers

namespace Publisher

/-- A publisher that was loaded has the catalog and the settings of a file, and the usual projector.
-/
theorem ofText_eq_ok {text : String} {p : Publisher} (h : Publisher.ofText text = .ok p) :
    ∃ f, CatalogFile.ofText text = .ok f ∧ f.catalog = .ok p.catalog
      ∧ p.projector = Sampling.usual.projector := by
  unfold Publisher.ofText at h
  cases hfile : CatalogFile.ofText text with
  | error fault =>
      rw [hfile] at h
      cases h
  | ok f =>
      rw [hfile] at h
      obtain ⟨catalog, hcatalog, rfl⟩ := map_eq_ok_iff.mp h
      exact ⟨f, rfl, hcatalog, rfl⟩

/-! ### Documents -/

private theorem unionBounds_isOrdered {layers : List RequestedLayer} {b : Box}
    (hlayers : ∀ l ∈ layers, l.layer.bounds.IsOrdered) (h : unionBounds layers = some b) :
    b.IsOrdered := by
  cases layers with
  | nil => cases h
  | cons first rest =>
      cases h
      rw [List.forall_mem_cons] at hlayers
      exact List.foldlRecOn rest _ hlayers.1 fun b hb l hl => hb.union (hlayers.2 l hl)

variable {p : Publisher} {r : Request} {layers : List RequestedLayer}

theorem projectedBounds_eq_some {t : Tcrs} {b c : Box} (h : p.projectedBounds t b = some c) :
    ∃ box, p.projector b .crs84 t.crs = .ok box ∧ box.intersection? t.bounds = some c := by
  unfold projectedBounds at h
  split at h
  case h_1 box hbox => exact ⟨box, hbox, h⟩
  case h_2 => cases h

/-- The bounds of a document are those of the request or of the tiled system, or come from those of
its layers. -/
theorem bounds_cases (p : Publisher) (r : Request) (layers : List RequestedLayer) :
    r.bbox = some (p.bounds r layers)
      ∨ r.bbox = none ∧ (p.bounds r layers = r.tcrs.bounds
        ∨ ∃ union, unionBounds layers = some union
          ∧ p.projectedBounds r.tcrs union = some (p.bounds r layers)) := by
  unfold bounds
  cases r.bbox with
  | some b => exact .inl rfl
  | none =>
      right
      dsimp only
      cases hbounds : (unionBounds layers).bind (p.projectedBounds r.tcrs) with
      | none => exact ⟨rfl, .inl rfl⟩
      | some c => exact ⟨rfl, .inr (Option.bind_eq_some_iff.mp hbounds)⟩

theorem bounds_isFinite (p : Publisher) (layers : List RequestedLayer)
    (hbox : ∀ b ∈ r.bbox, b.isFinite = true) : (p.bounds r layers).isFinite = true := by
  rcases p.bounds_cases r layers with hasked | ⟨_, htcrs | ⟨union, _, hproject⟩⟩
  · exact hbox _ hasked
  · rw [htcrs]
    exact r.tcrs.bounds_isOrdered.1
  · obtain ⟨box, _, hclip⟩ := projectedBounds_eq_some hproject
    exact Box.isFinite_of_intersection? r.tcrs.bounds_isOrdered.1 hclip

/-- The bounds of a document are ordered when the request has a box, or when they are projected, or
when the boxes of its layers are ordered. -/
theorem bounds_isOrdered {s : Sampling} (hprojector : p.projector = s.projector)
    (hbox : ∀ b ∈ r.bbox, b.IsOrdered)
    (h : r.bbox.isSome ∨ r.tcrs ≠ .wgs84 ∨ ∀ l ∈ layers, l.layer.bounds.IsOrdered) :
    (p.bounds r layers).IsOrdered := by
  rcases p.bounds_cases r layers with hasked | ⟨hnone, htcrs | ⟨union, hunion, hproject⟩⟩
  · exact hbox _ hasked
  · rw [htcrs]
    exact r.tcrs.bounds_isOrdered.2
  · obtain ⟨box, himage, hclip⟩ := projectedBounds_eq_some hproject
    rw [hprojector] at himage
    refine Box.IsOrdered.intersection ?_ r.tcrs.bounds_isOrdered.2 hclip
    by_cases hdegrees : r.tcrs = .wgs84
    · have hlayers : ∀ l ∈ layers, l.layer.bounds.IsOrdered := by
        rcases h with hsome | hother | hlayers
        · rw [hnone] at hsome
          cases hsome
        · exact absurd hdegrees hother
        · exact hlayers
      rw [Sampling.projector_sameSpace (by rw [sameSpace_crs84]; exact decide_eq_true hdegrees)]
        at himage
      cases himage
      exact unionBounds_isOrdered hlayers hunion
    · have hspace : Crs.crs84.sameSpace r.tcrs.crs = false := by
        rw [sameSpace_crs84]
        exact decide_eq_false hdegrees
      exact (Sampling.projector_isOrdered hspace himage).2

end Publisher

end MapMarkup
