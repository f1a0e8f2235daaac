import MapMarkup.Proofs.Outcome
import MapMarkup.Proofs.Template.Nodes
import MapMarkup.Publisher

/-!
# The composition of extents

A composed document treats its layers either as one or one by one. As one, there is a single hidden
extent, and if it covers several layers it is one image at every zoom. One by one, the extent of a
layer is the one that the layer would have alone, shown and labelled with the layer's name
(`ExtentContext.IsEntry`): nothing passes from one layer to the next.

Which of the two it is, is up to the first group that says so and otherwise to the service
(`DecidesMultiExtent`). What a plain layer says about it changes no document.
-/

namespace MapMarkup

/-! ### Styles and zoom ranges -/

/-- The style token is empty or names a style of the layer. -/
def RequestedLayer.HasStyle (r : RequestedLayer) : Prop :=
  r.style = "" ∨ ∃ s ∈ r.layer.styles, s.name = r.style

theorem RequestedLayer.HasStyle.exists_zoom {r : RequestedLayer} (h : r.HasStyle) (t : Tcrs) :
    ∃ z, r.zoom t = .ok z := by
  have hstyle : ∃ style, r.layer.effectiveStyle r.style = .ok style := by
    unfold Layer.effectiveStyle
    by_cases hempty : r.style = ""
    · rw [if_pos hempty]
      exact ⟨_, rfl⟩
    · obtain ⟨s, hs, hname⟩ := h.resolve_left hempty
      have hsome : (r.layer.style? r.style).isSome := by
        rw [Layer.style?, List.find?_isSome]
        exact ⟨s, hs, decide_eq_true hname⟩
      obtain ⟨found, hfound⟩ := Option.isSome_iff_exists.mp hsome
      rw [if_neg hempty, hfound]
      exact ⟨_, rfl⟩
  obtain ⟨style, hstyle⟩ := hstyle
  unfold RequestedLayer.zoom
  rw [hstyle]
  exact ⟨_, rfl⟩

namespace ExtentContext

theorem withZooms_eq_ok_iff {t : Tcrs} {layers : List RequestedLayer}
    {zoomed : List (RequestedLayer × ZoomRange)} :
    withZooms t layers = .ok zoomed
      ↔ List.Forall₂ (fun r p => r.zoom t = .ok p.2 ∧ p.1 = r) layers zoomed := by
  have hstep : ∀ (r : RequestedLayer) (p : RequestedLayer × ZoomRange),
      (r.zoom t).map (fun z => (r, z)) = .ok p ↔ r.zoom t = .ok p.2 ∧ p.1 = r := by
    rintro r ⟨r', z'⟩
    rw [map_eq_ok_iff]
    constructor
    · rintro ⟨z, hz, hp⟩
      cases hp
      exact ⟨hz, rfl⟩
    · rintro ⟨hz, rfl⟩
      exact ⟨z', hz, rfl⟩
  rw [withZooms, mapM_eq_ok_iff]
  simp only [hstep]

theorem exists_withZooms {layers : List RequestedLayer} (h : ∀ r ∈ layers, r.HasStyle) (t : Tcrs) :
    ∃ zoomed, withZooms t layers = .ok zoomed := by
  simp only [withZooms_eq_ok_iff]
  induction layers with
  | nil => exact ⟨[], .nil⟩
  | cons r rest ih =>
      obtain ⟨z, hz⟩ := (h r List.mem_cons_self).exists_zoom t
      obtain ⟨zoomed, hzoomed⟩ := ih fun r' hr' => h r' (List.mem_cons_of_mem _ hr')
      exact ⟨(r, z) :: zoomed, .cons ⟨hz, rfl⟩ hzoomed⟩

/-! ### The three cases -/

variable {c : ExtentContext} {layers : List RequestedLayer}
  {zoomed : List (RequestedLayer × ZoomRange)}

theorem compose_one {r : RequestedLayer} {z : ZoomRange} (h : r.zoom c.tcrs = .ok z) :
    c.compose [r] = .ok [c.single r z true] := by
  have hzoomed : withZooms c.tcrs [r] = .ok [(r, z)] :=
    withZooms_eq_ok_iff.mpr (.cons ⟨h, rfl⟩ .nil)
  unfold compose
  rw [hzoomed]
  rfl

theorem eq_cons_cons_of_withZooms {t : Tcrs} (hzoomed : withZooms t layers = .ok zoomed)
    (hmany : 2 ≤ layers.length) : ∃ p q rest, zoomed = p :: q :: rest := by
  have hlength := (withZooms_eq_ok_iff.mp hzoomed).length_eq
  match zoomed with
  | [] => rw [List.length_nil] at hlength; omega
  | [p] => rw [List.length_singleton] at hlength; omega
  | p :: q :: rest => exact ⟨p, q, rest, rfl⟩

theorem compose_combined (hzoomed : withZooms c.tcrs layers = .ok zoomed)
    (hmany : 2 ≤ layers.length) (hflag : c.multiExtent = false) :
    c.compose layers = .ok [c.combined layers] := by
  obtain ⟨p, q, rest, rfl⟩ := eq_cons_cons_of_withZooms hzoomed hmany
  unfold compose
  rw [hzoomed, hflag]
  rfl

theorem compose_each (hzoomed : withZooms c.tcrs layers = .ok zoomed)
    (hmany : 2 ≤ layers.length) (hflag : c.multiExtent = true) :
    c.compose layers = .ok (zoomed.map fun p => c.single p.1 p.2 false) := by
  obtain ⟨p, q, rest, rfl⟩ := eq_cons_cons_of_withZooms hzoomed hmany
  unfold compose
  rw [hzoomed, hflag]
  rfl

/-- What composing gives: the extent of the only layer, one extent of all layers, or one of each. -/
theorem compose_cases {es : List Extent} (h : c.compose layers = .ok es) :
    (∃ r z, layers = [r] ∧ r.zoom c.tcrs = .ok z ∧ es = [c.single r z true])
      ∨ (2 ≤ layers.length ∧ c.multiExtent = false ∧ es = [c.combined layers])
      ∨ (2 ≤ layers.length ∧ c.multiExtent = true
        ∧ List.Forall₂ (fun r e => ∃ z, r.zoom c.tcrs = .ok z ∧ e = c.single r z false) layers es)
    := by
  obtain ⟨zoomed, hzoomed, _⟩ := bind_eq_ok_iff.mp h
  have hforall := withZooms_eq_ok_iff.mp hzoomed
  match layers with
  | [] =>
      cases hforall
      rw [compose, hzoomed] at h
      cases h
  | [r] =>
      cases hforall with
      | @cons _ p _ _ hp _ =>
          rw [compose_one hp.1] at h
          cases h
          exact .inl ⟨r, p.2, rfl, hp.1, rfl⟩
  | r :: s :: rest =>
      have hmany : 2 ≤ (r :: s :: rest).length := by simp
      cases hflag : c.multiExtent with
      | false =>
          rw [compose_combined hzoomed hmany hflag] at h
          cases h
          exact .inr (.inl ⟨hmany, rfl, rfl⟩)
      | true =>
          rw [compose_each hzoomed hmany hflag] at h
          cases h
          refine .inr (.inr ⟨hmany, rfl, ?_⟩)
          rw [List.forall₂_map_right_iff]
          refine hforall.imp ?_
          rintro r ⟨_, z⟩ ⟨hz, rfl⟩
          exact ⟨z, hz, rfl⟩

/-- The extent of a layer among several: the one that the layer has alone, but shown and labelled.
-/
def IsEntry (c : ExtentContext) (r : RequestedLayer) (e : Extent) : Prop :=
  ∃ alone, c.compose [r] = .ok [alone]
    ∧ e = { alone with hidden := false, label := some r.layer.name }

private theorem isEntry_single {r : RequestedLayer} {z : ZoomRange} (h : r.zoom c.tcrs = .ok z) :
    c.IsEntry r (c.single r z false) :=
  ⟨c.single r z true, compose_one h, rfl⟩

private theorem forall₂_isEntry (hzoomed : withZooms c.tcrs layers = .ok zoomed) :
    List.Forall₂ c.IsEntry layers (zoomed.map fun p => c.single p.1 p.2 false) := by
  rw [List.forall₂_map_right_iff]
  refine (withZooms_eq_ok_iff.mp hzoomed).imp ?_
  rintro r ⟨_, z⟩ ⟨hz, rfl⟩
  exact isEntry_single hz

theorem nodes_combined : (c.combined layers).nodes = (c.combinedSource layers).nodes := rfl

/-! ### Changed layers -/

section Changes

variable {f : RequestedLayer → RequestedLayer}

theorem withZooms_map {t : Tcrs} (hzoom : ∀ r, (f r).zoom t = r.zoom t)
    (layers : List RequestedLayer) : withZooms t (layers.map f)
      = (withZooms t layers).map (List.map fun p => (f p.1, p.2)) := by
  apply mapM_map
  intro r
  rw [hzoom]
  cases r.zoom t <;> rfl

theorem combinedSource_map (c : ExtentContext) (htoken : ∀ r, (f r).token = r.token)
    (hstyle : ∀ r, (f r).style = r.style)
    (hqueryable : ∀ r, (f r).layer.queryable = r.layer.queryable) (layers : List RequestedLayer) :
    c.combinedSource (layers.map f)
      = { c.combinedSource layers with sharding := commonSharding (layers.map f) } := by
  simp only [combinedSource, List.filter_map, List.map_map, Function.comp_def, htoken, hstyle,
    hqueryable]

end Changes

end ExtentContext

/-! ### The flag in effect -/

/-- The layer does not say whether layers get an extent each; only groups do. -/
def RequestedLayer.IsSilent (r : RequestedLayer) : Prop :=
  r.layer.isGroup = true → r.layer.multiExtent = none

/-- The first group that says whether layers get an extent each says `flag`, or no group says
anything and the service does. -/
def DecidesMultiExtent (layers : List RequestedLayer) (service flag : Bool) : Prop :=
  (∃ before r after, layers = before ++ r :: after ∧ (∀ r' ∈ before, r'.IsSilent)
      ∧ r.layer.isGroup = true ∧ r.layer.multiExtent = some flag)
    ∨ ((∀ r ∈ layers, r.IsSilent) ∧ flag = service)

theorem DecidesMultiExtent.cons {r : RequestedLayer} {layers : List RequestedLayer}
    {service flag : Bool} (hr : r.IsSilent) (h : DecidesMultiExtent layers service flag) :
    DecidesMultiExtent (r :: layers) service flag := by
  rcases h with ⟨before, r', after, rfl, hbefore, hgroup, hflag⟩ | ⟨hsilent, hflag⟩
  · refine .inl ⟨r :: before, r', after, rfl, ?_, hgroup, hflag⟩
    rw [List.forall_mem_cons]
    exact ⟨hr, hbefore⟩
  · refine .inr ⟨?_, hflag⟩
    rw [List.forall_mem_cons]
    exact ⟨hr, hsilent⟩

section Opinions

variable (opinion : Layer → Option Bool)

namespace ExtentContext

variable (c : ExtentContext)

end ExtentContext

namespace Publisher

variable (p : Publisher)

end Publisher

end Opinions

/-! ### Documents -/

theorem Catalog.mem_of_find? {c : Catalog} {token : String} {preferred : Option String} {l : Layer}
    (h : c.find? token preferred = some l) : l ∈ c.entries := by
  unfold Catalog.find? at h
  split at h
  · exact List.mem_of_find?_eq_some h
  · split at h
    · rcases Option.or_eq_some_iff.mp h with h | ⟨_, h⟩
      · exact List.mem_of_find?_eq_some h
      · exact List.mem_of_find?_eq_some h
    · exact List.mem_of_find?_eq_some h

namespace Publisher

variable {p : Publisher} {r : Request} {layers : List RequestedLayer}

theorem tokens_of_resolveLayers (h : p.resolveLayers r = .ok layers) :
    layers.map RequestedLayer.token = r.layers := by
  have htokens := mapM_eq_ok_iff.mp h
  have hstep : ∀ (x : String × Nat) (l : RequestedLayer),
      p.resolveLayer r x.1 (r.styles.getD x.2 "") = .ok l → x.1 = l.token := by
    intro x l hl
    unfold resolveLayer at hl
    split at hl
    · cases hl
      rfl
    · cases hl
  have hforall := htokens.imp hstep
  rw [← List.forall₂_map_left_iff (f := Prod.fst) (R := fun x l => x = RequestedLayer.token l),
    ← List.forall₂_map_right_iff (f := RequestedLayer.token) (R := fun x y => x = y),
    List.forall₂_eq_eq_eq, List.zipIdx_map_fst] at hforall
  exact hforall.symm

theorem find?_of_resolveLayers (h : p.resolveLayers r = .ok layers) {l : RequestedLayer}
    (hl : l ∈ layers) : p.catalog.find? l.token r.workspace = some l.layer := by
  obtain ⟨⟨token, i⟩, _, hlayer⟩ := exists_of_mem_mapM h hl
  dsimp only at hlayer
  unfold resolveLayer at hlayer
  split at hlayer
  case h_1 found hfound =>
    cases hlayer
    exact hfound
  case h_2 => cases hlayer

theorem layer_mem_of_resolveLayers (h : p.resolveLayers r = .ok layers) {l : RequestedLayer}
    (hl : l ∈ layers) : l.layer ∈ p.catalog.entries :=
  Catalog.mem_of_find? (find?_of_resolveLayers h hl)

theorem document_eq (h : p.resolveLayers r = .ok layers) :
    p.document r = ((p.extentContext r layers).compose layers).map fun extents =>
      { head := p.head r layers, extents } := by
  unfold document
  rw [h]
  rfl

end Publisher

namespace ExtentContext

variable {c : ExtentContext} {layers : List RequestedLayer}

theorem compose_as_one (hne : layers ≠ []) (hstyles : ∀ r ∈ layers, r.HasStyle)
    (h : layers.length = 1 ∨ c.multiExtent = false) :
    ∃ e, c.compose layers = .ok [e] ∧ e.hidden = true ∧ e.label = none
      ∧ (2 ≤ layers.length → e.linksTo .tile = []
        ∧ e.input? "z" = some (Input.zoom ZoomRange.native.min ZoomRange.native.max)) := by
  obtain ⟨zoomed, hzoomed⟩ := exists_withZooms hstyles c.tcrs
  match layers with
  | [] => exact absurd rfl hne
  | [r] =>
      obtain ⟨z, hz⟩ := (hstyles r List.mem_cons_self).exists_zoom c.tcrs
      exact ⟨_, compose_one hz, rfl, rfl, fun hmany => absurd hmany (by simp)⟩
  | r :: s :: rest =>
      have hmany : 2 ≤ (r :: s :: rest).length := by simp
      have hflag : c.multiExtent = false := h.resolve_left (by simp)
      exact ⟨_, compose_combined hzoomed hmany hflag, rfl, rfl, fun _ =>
        ⟨ImageSource.linksTo_tile nodes_combined rfl, ImageSource.input?_zoom nodes_combined⟩⟩

theorem compose_one_by_one (hstyles : ∀ r ∈ layers, r.HasStyle) (hmany : 2 ≤ layers.length)
    (hflag : c.multiExtent = true) :
    ∃ es, c.compose layers = .ok es ∧ List.Forall₂ c.IsEntry layers es := by
  obtain ⟨zoomed, hzoomed⟩ := exists_withZooms hstyles c.tcrs
  exact ⟨_, compose_each hzoomed hmany hflag, forall₂_isEntry hzoomed⟩

end ExtentContext

theorem Publisher.exists_document {p : Publisher} {r : Request} {layers : List RequestedLayer}
    (h : p.resolveLayers r = .ok layers) (hne : layers ≠ [])
    (hstyles : ∀ l ∈ layers, l.HasStyle) : ∃ d, p.document r = .ok d := by
  have hcompose : ∃ es, (p.extentContext r layers).compose layers = .ok es := by
    by_cases hone : layers.length = 1 ∨ (p.extentContext r layers).multiExtent = false
    · obtain ⟨e, he, _⟩ := ExtentContext.compose_as_one hne hstyles hone
      exact ⟨[e], he⟩
    · rw [not_or, Bool.not_eq_false] at hone
      have hpos := List.length_pos_iff.mpr hne
      obtain ⟨es, hes, _⟩ := ExtentContext.compose_one_by_one hstyles (by omega) hone.2
      exact ⟨es, hes⟩
  obtain ⟨es, hes⟩ := hcompose
  rw [document_eq h, hes]
  exact ⟨_, rfl⟩

namespace ExtentContext

end ExtentContext

end MapMarkup
