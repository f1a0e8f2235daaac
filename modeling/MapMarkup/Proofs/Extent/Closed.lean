import MapMarkup.Proofs.Extent.Composition
import MapMarkup.Proofs.Template.Closed

/-!
# The extents of a document are closed

However the layers of a request are composed, the templates of each extent and its inputs answer
each other, and there is a link for queries exactly when one of the layers that the extent covers
can be queried: `Publisher.document_isClosed`. The texts of the request and of the catalog must not
bring braces of their own.
-/

namespace MapMarkup

namespace ExtentContext

/-- The texts that go into templates hold no braces, and the patterns of servers no placeholder but
the one for a shard. -/
structure IsPlain (c : ExtentContext) (layers : List RequestedLayer) : Prop where
  base : Braceless c.base.toList
  imageFormat : Braceless c.imageFormat.toList
  language : ∀ l ∈ c.language, Braceless l.toList
  tokens : ∀ r ∈ layers, Braceless r.token.toList
  names : ∀ r ∈ layers, Braceless r.layer.qualifiedName.toList
  styles : ∀ r ∈ layers, Braceless r.style.toList
  patterns : ∀ r ∈ layers, ∀ sharding ∈ r.layer.activeSharding, ∀ name,
    HasPlaceholder sharding.pattern.toList name → name = shardInput

/-- The layers that each extent covers. -/
def cover (c : ExtentContext) (layers : List RequestedLayer) : List (List RequestedLayer) :=
  if c.multiExtent = true ∧ 2 ≤ layers.length then layers.map fun r => [r] else [layers]

def IsClosedOver (covered : List RequestedLayer) (e : Extent) : Prop :=
  e.IsClosed
    ∧ (e.linksTo .query).length = if ∃ r ∈ covered, r.layer.queryable = true then 1 else 0

variable {c : ExtentContext} {layers : List RequestedLayer}

theorem isPlain_singleSource (h : c.IsPlain layers) {r : RequestedLayer} (hr : r ∈ layers)
    (z : ZoomRange) : (c.singleSource r z).IsPlain where
  base := h.base
  layers := h.tokens r hr
  queryLayers q hq := by
    unfold singleSource at hq
    dsimp only at hq
    split at hq
    · cases hq
      exact h.tokens r hr
    · cases hq
  styles := h.styles r hr
  cacheLayer := h.names r hr
  imageFormat := h.imageFormat
  language := h.language
  pattern := h.patterns r hr

theorem exists_of_commonSharding {sharding : Sharding}
    (h : sharding ∈ commonSharding layers) : ∃ r ∈ layers, sharding ∈ r.layer.activeSharding := by
  cases layers with
  | nil => cases h
  | cons first rest =>
      exact ⟨first, List.mem_cons_self, (Option.filter_eq_some_iff.mp h).1⟩

theorem isPlain_combinedSource (h : c.IsPlain layers) : (c.combinedSource layers).IsPlain where
  base := h.base
  layers := by
    refine braceless_join fun part hpart => ?_
    obtain ⟨r, hr, rfl⟩ := List.mem_map.mp hpart
    exact h.tokens r hr
  queryLayers q hq := by
    unfold combinedSource at hq
    dsimp only at hq
    split at hq
    · cases hq
    · cases hq
      refine braceless_join fun part hpart => ?_
      obtain ⟨r, hr, rfl⟩ := List.mem_map.mp hpart
      exact h.tokens r (List.mem_filter.mp hr).1
  styles := by
    change Braceless (stylesParam (layers.map RequestedLayer.style)).toList
    unfold stylesParam
    split
    · decide
    · refine braceless_join fun part hpart => ?_
      obtain ⟨r, hr, rfl⟩ := List.mem_map.mp hpart
      exact h.styles r hr
  cacheLayer := by
    refine braceless_join fun part hpart => ?_
    obtain ⟨r, hr, rfl⟩ := List.mem_map.mp hpart
    exact h.tokens r hr
  imageFormat := h.imageFormat
  language := h.language
  pattern sharding hsharding := by
    obtain ⟨r, hr, hactive⟩ := exists_of_commonSharding hsharding
    exact h.patterns r hr sharding hactive

private theorem isClosedOver_single (h : c.IsPlain layers) {r : RequestedLayer} (hr : r ∈ layers)
    (z : ZoomRange) (alone : Bool) : IsClosedOver [r] (c.single r z alone) := by
  have hnodes : (c.single r z alone).nodes = (c.singleSource r z).nodes := rfl
  refine ⟨(isPlain_singleSource h hr z).isClosed hnodes, ?_⟩
  rw [ImageSource.linksTo_query hnodes]
  unfold singleSource
  cases hqueryable : r.layer.queryable <;> simp [hqueryable]

private theorem isClosedOver_combined (h : c.IsPlain layers) :
    IsClosedOver layers (c.combined layers) := by
  have hnodes : (c.combined layers).nodes = (c.combinedSource layers).nodes := nodes_combined
  refine ⟨(isPlain_combinedSource h).isClosed hnodes, ?_⟩
  rw [ImageSource.linksTo_query hnodes]
  unfold combinedSource
  dsimp only
  by_cases hqueryable : ∃ r ∈ layers, r.layer.queryable = true
  · have hne : (layers.filter fun r => r.layer.queryable).map RequestedLayer.token ≠ [] := by
      simpa using hqueryable
    rw [if_pos hqueryable, if_neg hne]
    rfl
  · have hnil : (layers.filter fun r => r.layer.queryable).map RequestedLayer.token = [] := by
      simpa using hqueryable
    rw [if_neg hqueryable, if_pos hnil]
    rfl

/-- What holds of the extent that a single layer has for its zoom range, and of the one of all
layers, if they are several, holds of every extent and the layers it covers. -/
theorem forall₂_cover_zoom {R : List RequestedLayer → Extent → Prop} {es : List Extent}
    (hcompose : c.compose layers = .ok es)
    (hcombined : 2 ≤ layers.length → R layers (c.combined layers))
    (hsingle : ∀ r ∈ layers, ∀ z, r.zoom c.tcrs = .ok z → ∀ alone, R [r] (c.single r z alone)) :
    List.Forall₂ R (c.cover layers) es := by
  unfold cover
  rcases compose_cases hcompose with
    ⟨r, z, rfl, hz, rfl⟩ | ⟨hmany, hflag, rfl⟩ | ⟨hmany, hflag, hes⟩
  · rw [if_neg (by simp)]
    exact .cons (hsingle r List.mem_cons_self z hz true) .nil
  · rw [if_neg (by simp [hflag])]
    exact .cons (hcombined hmany) .nil
  · rw [if_pos ⟨hflag, hmany⟩, List.forall₂_map_left_iff]
    refine ((List.forall₂_and_left _ _).mpr ⟨fun r hr => hr, hes⟩).imp ?_
    rintro r e ⟨hr, z, hz, rfl⟩
    exact hsingle r hr z hz false

theorem forall₂_cover {R : List RequestedLayer → Extent → Prop} {es : List Extent}
    (hcompose : c.compose layers = .ok es)
    (hcombined : 2 ≤ layers.length → R layers (c.combined layers))
    (hsingle : ∀ r ∈ layers, ∀ z alone, R [r] (c.single r z alone)) :
    List.Forall₂ R (c.cover layers) es :=
  forall₂_cover_zoom hcompose hcombined fun r hr z _ alone => hsingle r hr z alone

private theorem compose_isClosedOver (h : c.IsPlain layers) {es : List Extent}
    (hcompose : c.compose layers = .ok es) : List.Forall₂ IsClosedOver (c.cover layers) es :=
  forall₂_cover hcompose (fun _ => isClosedOver_combined h) fun _ hr => isClosedOver_single h hr

end ExtentContext

/-- **Templates are closed.** In every extent of a document, placeholders are names of inputs,
inputs are told apart and taken, lists are there, and queries can be asked exactly where a covered
layer answers them. -/
theorem Publisher.document_isClosed {p : Publisher} {r : Request} {d : Document}
    (h : p.document r = .ok d) :
    ∃ layers, p.resolveLayers r = .ok layers
      ∧ ((p.extentContext r layers).IsPlain layers →
        List.Forall₂ ExtentContext.IsClosedOver ((p.extentContext r layers).cover layers)
          d.extents) := by
  obtain ⟨layers, hlayers, hassemble⟩ := bind_eq_ok_iff.mp h
  obtain ⟨extents, hextents, rfl⟩ := map_eq_ok_iff.mp hassemble
  exact ⟨layers, hlayers, fun hplain => ExtentContext.compose_isClosedOver hplain hextents⟩

theorem Publisher.document_isClosed_sharded : ∃ (p : Publisher) (r : Request) (d : Document)
    (lakes roads : RequestedLayer), p.document r = .ok d ∧ p.resolveLayers r = .ok [lakes, roads]
    ∧ lakes.layer.activeSharding.isSome = true
    ∧ List.Forall₂ ExtentContext.IsClosedOver [[lakes], [roads]] d.extents := by
  let lakes : Layer :=
    { name := "lakes", bounds := Box.world, useTiles := true, cached := [.osmTile],
      sharding := some ⟨true, ["a", "b"], "\x7bs\x7d.h"⟩ }
  let roads : Layer := { name := "roads", bounds := Box.world, queryable := false }
  have hresolve : (Publisher.mk ⟨[lakes, roads]⟩ { multiExtent := true }
        Sampling.usual.projector).resolveLayers (Request.plain ["lakes", "roads"] .osmTile 1 1)
      = .ok [⟨"lakes", lakes, ""⟩, ⟨"roads", roads, ""⟩] := by
    decide +kernel
  have hpattern : ∀ name, HasPlaceholder "\x7bs\x7d.h".toList name → name = shardInput := by
    intro name hname
    have htext : "\x7bs\x7d.h".toList = (placeholder shardInput).toList ++ ".h".toList := by decide
    have hwoven : Woven [shardInput] ((placeholder shardInput).toList ++ ".h".toList) :=
      .slot (by decide) List.mem_cons_self (.of_braceless (by decide))
    rw [htext] at hname
    exact List.mem_singleton.mp (hname.mem_of_woven hwoven)
  obtain ⟨d, hd⟩ := Publisher.exists_document hresolve (by simp) (by simp [RequestedLayer.HasStyle])
  obtain ⟨layers, hlayers, hclosed⟩ := Publisher.document_isClosed hd
  rw [hresolve] at hlayers
  cases hlayers
  refine ⟨_, _, _, _, _, hd, hresolve, rfl,
    hclosed ⟨by decide, by decide, by decide, ?_, ?_, ?_, ?_⟩⟩
  · decide
  · decide
  · decide
  · intro l hl sharding hsharding
    rcases List.mem_cons.mp hl with rfl | hl
    · cases hsharding
      exact hpattern
    · rw [List.mem_singleton.mp hl] at hsharding
      cases hsharding

end MapMarkup
