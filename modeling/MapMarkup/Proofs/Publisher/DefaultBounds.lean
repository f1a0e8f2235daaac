import MapMarkup.Proofs.Box.Lattice
import MapMarkup.Proofs.Publisher.Alternates
import MapMarkup.Proofs.Publisher.Bounds

/-!
# Bounds without a box in the request

A document takes its bounds from its layers if the request has no box, and the projector may give
anything for them: a box outside the tiled system, an inverted one, a NaN, an error. Whatever it is,
the bounds do not leave those of the tiled system, and what their sides and corners are is decided
by three cases alone (`Publisher.bounds_decided`): no usable box, one that is cut to the bounds of
the tiled system, and one that covers them.
-/

namespace MapMarkup

private theorem Tcrs.bounds_ne_zero (t : Tcrs) :
    ∀ side ∈ [t.bounds.minX, t.bounds.minY, t.bounds.maxX, t.bounds.maxY],
      (side == 0) = false := by
  cases t <;> decide +kernel

/-! ### The corners in the head -/

/-- The text gives the corners of a box in a tiled system, each coordinate behind its name. -/
def CarriesCorners (t : Tcrs) (b : Box) (text : String) : Prop :=
  let (x, y) := if t.crs.isGeographic then ("longitude", "latitude") else ("easting", "northing")
  (Text.fields ',' text).map (Text.cut '=')
    = [some ("top-left-" ++ x, Decimal.text b.minX), some ("top-left-" ++ y, Decimal.text b.maxY),
      some ("bottom-right-" ++ x, Decimal.text b.maxX),
      some ("bottom-right-" ++ y, Decimal.text b.minY)]

private theorem cut_fields_corners (b : Box) {x y : String} (hx : ',' ∉ x.toList ∧ '=' ∉ x.toList)
    (hy : ',' ∉ y.toList ∧ '=' ∉ y.toList) :
    (Text.fields ',' ("top-left-" ++ x ++ "=" ++ Decimal.text b.minX ++ ",top-left-" ++ y ++ "="
        ++ Decimal.text b.maxY ++ ",bottom-right-" ++ x ++ "=" ++ Decimal.text b.maxX
        ++ ",bottom-right-" ++ y ++ "=" ++ Decimal.text b.minY)).map (Text.cut '=')
      = [some ("top-left-" ++ x, Decimal.text b.minX), some ("top-left-" ++ y, Decimal.text b.maxY),
        some ("bottom-right-" ++ x, Decimal.text b.maxX),
        some ("bottom-right-" ++ y, Decimal.text b.minY)] := by
  have hcomma (v : Float) : ',' ∉ (Decimal.text v).toList :=
    Decimal.notMem_text (by decide) (by decide) v
  have hcut := Text.cut_fields_join [("top-left-" ++ x, Decimal.text b.minX),
    ("top-left-" ++ y, Decimal.text b.maxY), ("bottom-right-" ++ x, Decimal.text b.maxX),
    ("bottom-right-" ++ y, Decimal.text b.minY)] (by simp) (by simp [hx, hy, hcomma])
  refine Eq.trans (congrArg (fun text => (Text.fields ',' text).map (Text.cut '=')) ?_) hcut
  apply String.toList_injective
  simp [Text.joinFields]

private theorem exists_carriesCorners (t : Tcrs) (b : Box) :
    ∃ text, Meta.named "extent" text ∈ headMetas t b ∧ CarriesCorners t b text := by
  have hmem (first second third fourth fifth : Meta) :
      fifth ∈ [first, second, third, fourth, fifth] := by simp
  unfold headMetas CarriesCorners
  cases t.crs.isGeographic with
  | true =>
    rw [if_pos rfl]
    exact ⟨_, hmem .., cut_fields_corners b (by decide) (by decide)⟩
  | false =>
    rw [if_neg (by decide)]
    exact ⟨_, hmem .., cut_fields_corners b (by decide) (by decide)⟩

/-! ### The bounds -/

namespace Publisher

variable {p : Publisher} {r : Request} {layers : List RequestedLayer} {t : Tcrs} {box : Box}

/-- The projector takes the union of the bounds of layers to a box in the tiled system. -/
def ProjectsTo (p : Publisher) (t : Tcrs) (layers : List RequestedLayer) (box : Box) : Prop :=
  ∃ union, unionBounds layers = some union ∧ p.projector union .crs84 t.crs = .ok box

theorem ProjectsTo.unique {other : Box} (h : p.ProjectsTo t layers box)
    (h' : p.ProjectsTo t layers other) : box = other := by
  obtain ⟨union, hunion, hbox⟩ := h
  obtain ⟨union', hunion', hother⟩ := h'
  rw [hunion] at hunion'
  cases hunion'
  rw [hbox] at hother
  exact Except.ok.inj hother

/-- Without a box in the request, a projected box that reaches across the bounds of the tiled system
is cut to them, and otherwise they stand in. -/
theorem bounds_decided (layers : List RequestedLayer) (hbox : r.bbox = none) :
    (∃ box, p.ProjectsTo r.tcrs layers box
        ∧ box.intersection? r.tcrs.bounds = some (p.bounds r layers))
      ∨ (∀ box, p.ProjectsTo r.tcrs layers box → ¬ box.Crosses r.tcrs.bounds)
        ∧ p.bounds r layers = r.tcrs.bounds := by
  unfold bounds
  rw [hbox]
  dsimp only
  cases hunion : unionBounds layers with
  | none =>
      right
      refine ⟨?_, rfl⟩
      intro box h
      obtain ⟨union, hsome, _⟩ := h
      rw [hunion] at hsome
      cases hsome
  | some union =>
      rw [Option.bind_some, projectedBounds]
      cases hproject : p.projector union .crs84 r.tcrs.crs with
      | error e =>
          right
          refine ⟨?_, rfl⟩
          intro box h
          obtain ⟨union', hsome, hok⟩ := h
          rw [hunion] at hsome
          cases hsome
          rw [hproject] at hok
          cases hok
      | ok box =>
          have hbox : p.ProjectsTo r.tcrs layers box := ⟨union, hunion, hproject⟩
          dsimp only
          cases hclip : box.intersection? r.tcrs.bounds with
          | some c => exact .inl ⟨box, hbox, hclip⟩
          | none =>
              right
              refine ⟨?_, rfl⟩
              intro other hother hcross
              rw [← hbox.unique hother] at hcross
              obtain ⟨c, hc⟩ := Box.exists_intersection?_iff.mpr hcross
              rw [hclip] at hc
              cases hc

private theorem contains_corners_bounds (hbox : r.bbox = none) :
    r.tcrs.bounds.contains ⟨(p.bounds r layers).minX, (p.bounds r layers).minY⟩ = true
      ∧ r.tcrs.bounds.contains ⟨(p.bounds r layers).maxX, (p.bounds r layers).maxY⟩ = true := by
  have hordered := r.tcrs.bounds_isOrdered.2
  obtain ⟨box, _, hclip⟩ | ⟨_, hdefault⟩ := p.bounds_decided layers hbox
  · exact Box.contains_corners hordered hclip
  · rw [hdefault]
    exact hordered.contains_corners

private theorem isOrdered_bounds (hbox : r.bbox = none)
    (h : ∀ box, p.ProjectsTo r.tcrs layers box → box.IsOrdered) :
    (p.bounds r layers).IsOrdered := by
  have hordered := r.tcrs.bounds_isOrdered.2
  obtain ⟨box, hproject, hclip⟩ | ⟨_, hdefault⟩ := p.bounds_decided layers hbox
  · exact (h box hproject).intersection hordered hclip
  · rw [hdefault]
    exact hordered

private theorem bounds_eq_tcrs_iff (hbox : r.bbox = none) : p.bounds r layers = r.tcrs.bounds
    ↔ ∀ box, p.ProjectsTo r.tcrs layers box →
      ¬ box.Crosses r.tcrs.bounds ∨ r.tcrs.bounds.Within box := by
  obtain ⟨box, hproject, hclip⟩ | ⟨hnone, hdefault⟩ := p.bounds_decided layers hbox
  · constructor
    · intro heq other hother
      right
      rw [← hproject.unique hother]
      intro q hq
      rw [heq] at hclip
      exact ((Box.contains_intersection hclip q).mp hq).1
    · intro h
      obtain hnot | hwithin := h box hproject
      · exact absurd (Box.exists_intersection?_iff.mp ⟨_, hclip⟩) hnot
      · exact (Box.same_of_within r.tcrs.bounds_isOrdered.2 hclip hwithin).eq r.tcrs.bounds_ne_zero
  · constructor
    · intro _ box hproject
      exact .inl (hnone box hproject)
    · intro _
      exact hdefault

/-- **Default bounds stay in the tiled system.** The box in the self link and in the extent of a
document is that of the request, or else it lies in the bounds of the tiled system, whatever the
projector gives. -/
theorem document_bounds (hlayers : p.resolveLayers r = .ok layers) :
    let b := p.bounds r layers
    let base := p.service.base r.workspace
    (∀ d, p.document r = .ok d → d.head.metas = headMetas r.tcrs b
        ∧ (∃ text, Meta.named "extent" text ∈ d.head.metas ∧ CarriesCorners r.tcrs b text)
        ∧ d.head.links = selfLink base r b
          :: (alternateBounds p.projector b r.tcrs).map (alternateLink base r)
        ∧ ∃ self alternates url, d.head.links = self :: alternates ∧ self.rel = .selfStyle
          ∧ self.href = some url ∧ CarriesBox base r.tcrs b url)
      ∧ (∀ asked, r.bbox = some asked → b = asked)
      ∧ (r.bbox = none →
        (r.tcrs.bounds.contains ⟨b.minX, b.minY⟩ = true
          ∧ r.tcrs.bounds.contains ⟨b.maxX, b.maxY⟩ = true)
        ∧ ((∀ box, p.ProjectsTo r.tcrs layers box → box.IsOrdered) → b.IsOrdered)
        ∧ (b = r.tcrs.bounds ↔ ∀ box, p.ProjectsTo r.tcrs layers box →
          ¬ box.Crosses r.tcrs.bounds ∨ r.tcrs.bounds.Within box)
        ∧ ∀ box, p.ProjectsTo r.tcrs layers box → box.Crosses r.tcrs.bounds → ∀ q,
          b.contains q = true ↔ box.contains q = true ∧ r.tcrs.bounds.contains q = true) := by
  intro b base
  refine ⟨?_, ?_, ?_⟩
  · intro d hd
    rw [document_eq hlayers] at hd
    obtain ⟨extents, _, rfl⟩ := map_eq_ok_iff.mp hd
    exact ⟨rfl, exists_carriesCorners r.tcrs b, rfl, _, _, _, rfl, rfl, rfl,
      carriesBox_documentUrl base r r.tcrs b⟩
  · intro asked hasked
    show p.bounds r layers = asked
    unfold bounds
    rw [hasked]
  · intro hbox
    refine ⟨contains_corners_bounds hbox, isOrdered_bounds hbox, bounds_eq_tcrs_iff hbox, ?_⟩
    intro box hproject hcross
    obtain ⟨other, hother, hclip⟩ | ⟨hnone, _⟩ := p.bounds_decided layers hbox
    · rw [← hproject.unique hother] at hclip
      exact Box.contains_intersection hclip
    · exact absurd hcross (hnone box hproject)

/-- An inverted box without an end is cut to the tiled system, and a NaN gives way to its bounds. -/
theorem document_bounds_inverted : ∃ (p : Publisher) (r : Request) (layers : List RequestedLayer)
    (d : Document), p.resolveLayers r = .ok layers ∧ r.bbox = none ∧ p.document r = .ok d
    ∧ p.bounds r layers = ⟨5, -mercatorExtent, -3, 7⟩
    ∧ d.head.metas = headMetas .osmTile ⟨5, -mercatorExtent, -3, 7⟩
    ∧ Tcrs.osmTile.bounds.contains ⟨5, -mercatorExtent⟩ = true
    ∧ Tcrs.osmTile.bounds.contains ⟨-3, 7⟩ = true
    ∧ ({ p with projector := fun _ _ _ => .ok ⟨0, 0, 0 / 0, 7⟩ } : Publisher).bounds r layers
      = Tcrs.osmTile.bounds := by
  let lakes : Layer := { name := "lakes", bounds := Box.world }
  let r : Request := Request.plain ["lakes"] .osmTile 10 20
  let p : Publisher :=
    { catalog := ⟨[lakes]⟩, service := {}, projector := fun _ _ _ => .ok ⟨5, -(1 / 0), -3, 7⟩ }
  let q : Publisher := { p with projector := fun _ _ _ => .ok ⟨0, 0, 0 / 0, 7⟩ }
  have hresolve : p.resolveLayers r = .ok [⟨"lakes", lakes, ""⟩] := by decide +kernel
  have hresolve' : q.resolveLayers r = .ok [⟨"lakes", lakes, ""⟩] := by decide +kernel
  have hbounds : p.bounds r [⟨"lakes", lakes, ""⟩] = ⟨5, -mercatorExtent, -3, 7⟩ := by
    decide +kernel
  obtain ⟨d, hd⟩ := exists_document hresolve (by simp) (by simp [RequestedLayer.HasStyle])
  obtain ⟨hhead, _, hdefault⟩ := document_bounds hresolve
  obtain ⟨_, _, hdefault'⟩ := document_bounds hresolve'
  obtain ⟨hcorners, _, _, _⟩ := hdefault rfl
  obtain ⟨_, _, htcrs, _⟩ := hdefault' rfl
  have hmetas := (hhead d hd).1
  rw [hbounds] at hmetas hcorners
  refine ⟨p, r, _, d, hresolve, rfl, hd, hbounds, hmetas, hcorners.1, hcorners.2, htcrs.mpr ?_⟩
  intro box hproject
  obtain ⟨union, _, hok⟩ := hproject
  cases hok
  left
  intro hcross
  exact absurd hcross.x' (by decide +kernel)

end Publisher

end MapMarkup
