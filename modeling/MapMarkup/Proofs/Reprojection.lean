import MapMarkup.Proofs.Box.Lattice
import MapMarkup.Reprojection

/-!
# Projected boxes

Whatever the formulas of two projections are, a box that is taken from one to the other is the least
one around the finite images of points along the edges of the clipped area (`Box.Frames`), and so it
is finite, ordered and read back from its parameter. The clipped area is what the box around the
points of a grid has in common with the world and with the region in which the target is used. There
is no projected box exactly when this area is missing or empty or none of the points along its edges
has a finite image (`Sampling.projectorBy_frames`).
-/

namespace MapMarkup

/-- One of the points has the finite image. -/
def HasImage (f : Point → Except PointFault Point) (points : List Point) (q : Point) : Prop :=
  ∃ p ∈ points, f p = .ok q ∧ q.isFinite = true

/-- The box is the least one around the finite images of points: it holds each of them, and each of
its sides runs through one of them. -/
structure Box.Frames (b : Box) (f : Point → Except PointFault Point) (points : List Point) :
    Prop where
  contains : ∀ q, HasImage f points q → b.contains q = true
  minX : ∃ q, HasImage f points q ∧ q.x = b.minX
  minY : ∃ q, HasImage f points q ∧ q.y = b.minY
  maxX : ∃ q, HasImage f points q ∧ q.x = b.maxX
  maxY : ∃ q, HasImage f points q ∧ q.y = b.maxY

namespace Sampling

/-! ### Finite images -/

section

variable {f : Point → Except PointFault Point} {points images : List Point}

theorem exists_finiteImages_iff :
    (∃ images, finiteImages f points = .ok images) ↔ ∀ p ∈ points, f p ≠ .error .endless := by
  unfold finiteImages
  dsimp only
  split
  case isTrue h =>
    obtain ⟨image, himage, hendless⟩ := List.any_eq_true.mp h
    obtain ⟨p, hp, rfl⟩ := List.mem_map.mp himage
    refine iff_of_false (by rintro ⟨_, hok⟩; cases hok) fun hall => hall p hp ?_
    split at hendless
    case h_1 heq => exact heq
    case h_2 => cases hendless
  case isFalse h =>
    refine iff_of_true ⟨_, rfl⟩ fun p hp hfault => h ?_
    rw [List.any_eq_true]
    exact ⟨f p, List.mem_map_of_mem hp, by rw [hfault]⟩

theorem finiteImages_eq_error {fault : PointFault} (h : finiteImages f points = .error fault) :
    fault = .endless := by
  unfold finiteImages at h
  dsimp only at h
  split at h
  case isTrue =>
    cases h
    rfl
  case isFalse => cases h

theorem mem_finiteImages_iff (h : finiteImages f points = .ok images) {q : Point} :
    q ∈ images ↔ HasImage f points q := by
  unfold finiteImages at h
  dsimp only at h
  split at h
  case isTrue => cases h
  case isFalse =>
    cases h
    rw [List.mem_filterMap]
    constructor
    · rintro ⟨image, himage, hq⟩
      obtain ⟨p, hp, rfl⟩ := List.mem_map.mp himage
      split at hq
      case h_1 heq =>
        split at hq
        case isTrue hfinite =>
          cases hq
          exact ⟨p, hp, heq, hfinite⟩
        case isFalse => cases hq
      case h_2 => cases hq
    · rintro ⟨p, hp, himage, hfinite⟩
      refine ⟨f p, List.mem_map_of_mem hp, ?_⟩
      rw [himage]
      exact if_pos hfinite

theorem isFinite_of_mem_finiteImages (h : finiteImages f points = .ok images) {q : Point}
    (hq : q ∈ images) : q.isFinite = true := by
  obtain ⟨_, _, _, hfinite⟩ := (mem_finiteImages_iff h).mp hq
  exact hfinite

theorem frame_eq_ok_iff {box : Box} : frame f points = .ok box
    ↔ ∃ images, finiteImages f points = .ok images ∧ Box.around? images = some box := by
  unfold frame
  rw [bind_eq_ok_iff]
  refine exists_congr fun images => and_congr_right fun _ => ?_
  cases Box.around? images with
  | some around => simp
  | none => simp

theorem isOrdered_of_frame {box : Box} (h : frame f points = .ok box) :
    box.isFinite = true ∧ box.IsOrdered := by
  obtain ⟨images, himages, haround⟩ := frame_eq_ok_iff.mp h
  exact Box.isOrdered_of_around? (fun _ => isFinite_of_mem_finiteImages himages) haround

private theorem frames_of_frame {box : Box} (h : frame f points = .ok box) :
    box.Frames f points := by
  obtain ⟨images, himages, haround⟩ := frame_eq_ok_iff.mp h
  have hmem {q : Point} : q ∈ images ↔ HasImage f points q := mem_finiteImages_iff himages
  obtain ⟨⟨q₁, h₁, hminX⟩, ⟨q₂, h₂, hminY⟩, ⟨q₃, h₃, hmaxX⟩, ⟨q₄, h₄, hmaxY⟩⟩ :=
    Box.exists_sides_of_around? haround
  exact {
    contains q hq := Box.contains_of_around? (fun _ => isFinite_of_mem_finiteImages himages)
      haround (hmem.mpr hq)
    minX := ⟨q₁, hmem.mp h₁, hminX⟩
    minY := ⟨q₂, hmem.mp h₂, hminY⟩
    maxX := ⟨q₃, hmem.mp h₃, hmaxX⟩
    maxY := ⟨q₄, hmem.mp h₄, hmaxY⟩ }

private theorem outside_or_infinite_iff {image : Except PointFault Point} :
    (image = .error .outside ∨ ∃ q, image = .ok q ∧ q.isFinite = false)
      ↔ image ≠ .error .endless ∧ ∀ q, image = .ok q → q.isFinite = false := by
  rcases image with (_ | _) | q <;> simp

private theorem frame_eq_outside_iff : frame f points = .error .outside
    ↔ ∀ p ∈ points, f p = .error .outside ∨ ∃ q, f p = .ok q ∧ q.isFinite = false := by
  simp only [outside_or_infinite_iff]
  unfold frame
  rw [bind_eq_error_iff]
  constructor
  · rintro (h | ⟨images, himages, h⟩) p hp
    · cases finiteImages_eq_error h
    · have hnone : images = [] := by
        by_contra hsome
        obtain ⟨box, hbox⟩ := Box.exists_around?_iff.mpr hsome
        rw [hbox] at h
        cases h
      refine ⟨exists_finiteImages_iff.mp ⟨images, himages⟩ p hp, fun q hq => ?_⟩
      refine Bool.eq_false_iff.mpr fun hfinite => ?_
      have hmem := (mem_finiteImages_iff himages).mpr ⟨p, hp, hq, hfinite⟩
      rw [hnone] at hmem
      cases hmem
  · intro h
    obtain ⟨images, himages⟩ := exists_finiteImages_iff.mpr fun p hp => (h p hp).1
    have hnone : images = [] := List.eq_nil_iff_forall_not_mem.mpr fun q hq => by
      obtain ⟨p, hp, himage, hfinite⟩ := (mem_finiteImages_iff himages).mp hq
      rw [(h p hp).2 q himage] at hfinite
      cases hfinite
    exact .inr ⟨images, himages, by rw [hnone]; rfl⟩

end

/-! ### Projecting a box -/

section

variable {s : Sampling} {source target : Projection} {b g box : Box}

theorem contains_of_clippedArea (harea : s.clippedArea source target b = .ok (some g)) :
    ∃ around : Box, around.Frames source.inverse (s.gridPoints b)
      ∧ ∀ q, g.contains q = true ↔ (widenAtPole source b around).contains q = true
        ∧ Box.world.contains q = true ∧ target.validArea.contains q = true := by
  obtain ⟨geographic, hgeographic, hclip⟩ := map_eq_ok_iff.mp harea
  obtain ⟨images, himages, hreturn⟩ := bind_eq_ok_iff.mp hgeographic
  obtain ⟨part, rfl, hvalid⟩ := Option.bind_eq_some_iff.mp hclip
  obtain ⟨around, haround, hworld⟩ := Option.bind_eq_some_iff.mp (Except.ok.inj hreturn)
  refine ⟨around, frames_of_frame (frame_eq_ok_iff.mpr ⟨images, himages, haround⟩), fun q => ?_⟩
  rw [Box.contains_intersection hvalid, Box.contains_intersection hworld, and_assoc]

theorem reproject_of_area (harea : s.clippedArea source target b = .ok (some g))
    (hg : g.isEmpty = false) :
    s.reproject source target b = frame target.forward (s.edgePoints g) := by
  have hfilter : Option.filter (fun g => !g.isEmpty) (some g) = some g :=
    Option.filter_some_pos (by rw [hg]; rfl)
  rw [reproject, harea]
  dsimp only [bind, Except.bind]
  rw [hfilter]

theorem reproject_of_empty {area : Option Box} (harea : s.clippedArea source target b = .ok area)
    (hempty : ∀ g ∈ area, g.isEmpty = true) :
    s.reproject source target b = .error .outside := by
  have hfilter : area.filter (fun g => !g.isEmpty) = none :=
    Option.filter_eq_none_iff.mpr fun g hg => by rw [hempty g hg]; decide
  rw [reproject, harea]
  dsimp only [bind, Except.bind]
  rw [hfilter]

variable (s source target b) in
theorem clippedArea_cases :
    s.clippedArea source target b = .error .endless
      ∨ (∃ area, s.clippedArea source target b = .ok area ∧ ∀ g ∈ area, g.isEmpty = true)
      ∨ ∃ g, s.clippedArea source target b = .ok (some g) ∧ g.isEmpty = false := by
  cases h : s.clippedArea source target b with
  | error fault =>
    rcases bind_eq_error_iff.mp (map_eq_error_iff.mp h) with himages | ⟨_, _, hfault⟩
    · rw [finiteImages_eq_error himages]
      exact .inl rfl
    · cases hfault
  | ok area =>
    cases area with
    | none => exact .inr (.inl ⟨none, rfl, by simp⟩)
    | some g =>
      cases hg : g.isEmpty with
      | true => exact .inr (.inl ⟨some g, rfl, by simpa using hg⟩)
      | false => exact .inr (.inr ⟨g, rfl, hg⟩)

/-- A box is projected exactly when its clipped area has some area, of whose edges it frames the
image. -/
theorem reproject_eq_ok_iff : s.reproject source target b = .ok box
    ↔ ∃ g, s.clippedArea source target b = .ok (some g) ∧ g.isEmpty = false
      ∧ frame target.forward (s.edgePoints g) = .ok box := by
  constructor
  · intro h
    rcases s.clippedArea_cases source target b with hfault | ⟨area, harea, hempty⟩ | ⟨g, harea, hg⟩
    · rw [reproject, hfault] at h
      cases h
    · rw [reproject_of_empty harea hempty] at h
      cases h
    · exact ⟨g, harea, hg, reproject_of_area harea hg ▸ h⟩
  · rintro ⟨g, harea, hg, h⟩
    rw [reproject_of_area harea hg, h]

private theorem reproject_eq_outside_iff : s.reproject source target b = .error .outside
    ↔ s.clippedArea source target b = .ok none
      ∨ ∃ g, s.clippedArea source target b = .ok (some g)
        ∧ (g.isEmpty = true ∨ frame target.forward (s.edgePoints g) = .error .outside) := by
  constructor
  · intro h
    rcases s.clippedArea_cases source target b with hfault | ⟨area, harea, hempty⟩ | ⟨g, harea, hg⟩
    · rw [reproject, hfault] at h
      cases h
    · cases area with
      | none => exact .inl harea
      | some g => exact .inr ⟨g, harea, .inl (hempty g rfl)⟩
    · exact .inr ⟨g, harea, .inr (reproject_of_area harea hg ▸ h)⟩
  · rintro (hnone | ⟨g, harea, hg⟩)
    · exact reproject_of_empty hnone (by simp)
    · cases hempty : g.isEmpty with
      | true => exact reproject_of_empty harea (by simpa using hempty)
      | false =>
        rw [reproject_of_area harea hempty]
        exact hg.resolve_left (by rw [hempty]; decide)

end

/-! ### The projector -/

section

variable {s : Sampling} {projection : Crs → Projection} {source target : Crs} {b box : Box}

theorem projector_sameSpace (hspace : source.sameSpace target = true) :
    s.projector b source target = .ok b := by
  unfold projector projectorBy
  rw [hspace]
  rfl

theorem projectorBy_eq_ok_iff (hspace : source.sameSpace target = false) :
    s.projectorBy projection b source target = .ok box
      ↔ s.reproject (projection source) (projection target) b = .ok box := by
  unfold projectorBy
  rw [hspace, if_neg (by decide)]
  rcases s.reproject (projection source) (projection target) b with (_ | _) | _ <;> simp

private theorem projectorBy_eq_unsupported_iff (hspace : source.sameSpace target = false) :
    s.projectorBy projection b source target = .error (.unsupportedTransform source target)
      ↔ s.reproject (projection source) (projection target) b = .error .outside := by
  unfold projectorBy
  rw [hspace, if_neg (by decide)]
  rcases s.reproject (projection source) (projection target) b with (_ | _) | _ <;> simp

theorem projector_isOrdered (hspace : source.sameSpace target = false)
    (h : s.projector b source target = .ok box) : box.isFinite = true ∧ box.IsOrdered := by
  rw [projector, projectorBy_eq_ok_iff hspace, reproject_eq_ok_iff] at h
  obtain ⟨g, _, _, hframe⟩ := h
  exact isOrdered_of_frame hframe

end

/-- **A projected box is the least one around the image of its area.** Whatever the projections are,
it is finite and ordered, frames the finite images of points along the edges of the clipped area,
and reads back from its parameter. -/
theorem projectorBy_frames (projection : Crs → Projection) (grid edge : Nat) (b : Box)
    {source target : Crs} (hspace : source.sameSpace target = false) :
    let s := (ofGrid grid).withEdge edge
    let area := s.clippedArea (projection source) (projection target) b
    let forward := (projection target).forward
    (∀ box, s.projectorBy projection b source target = .ok box →
      box.isFinite = true ∧ box.IsOrdered
        ∧ (∃ g, area = .ok (some g) ∧ g.isEmpty = false
          ∧ box.Frames forward (s.edgePoints g))
        ∧ ∀ order, Box.ofParam (box.toParam order) order = .ok box)
    ∧ (s.projectorBy projection b source target = .error (.unsupportedTransform source target)
      ↔ area = .ok none ∨ ∃ g, area = .ok (some g) ∧ (g.isEmpty = true
        ∨ ∀ p ∈ s.edgePoints g, forward p = .error .outside
          ∨ ∃ q, forward p = .ok q ∧ q.isFinite = false))
    ∧ (∀ g, area = .ok (some g) → ∃ around : Box,
      around.Frames (projection source).inverse (s.gridPoints b)
        ∧ ∀ q, g.contains q = true
          ↔ (widenAtPole (projection source) b around).contains q = true
            ∧ Box.world.contains q = true ∧ (projection target).validArea.contains q = true)
    ∧ s.projectorBy Crs.projection = s.projector := by
  intro s area forward
  refine ⟨?_, ?_, fun g => contains_of_clippedArea, rfl⟩
  · intro box hbox
    obtain ⟨g, harea, hg, hframe⟩ := reproject_eq_ok_iff.mp ((projectorBy_eq_ok_iff hspace).mp hbox)
    obtain ⟨hfinite, hordered⟩ := isOrdered_of_frame hframe
    exact ⟨hfinite, hordered, ⟨g, harea, hg, frames_of_frame hframe⟩,
      Box.ofParam_toParam hfinite hordered.x hordered.y⟩
  · rw [projectorBy_eq_unsupported_iff hspace, reproject_eq_outside_iff]
    refine or_congr_right (exists_congr fun g => and_congr_right fun _ => or_congr_right ?_)
    rw [frame_eq_outside_iff]

/-- Under a formula without a finite value at zero, the edges at zero are left out, and a box
without area is not projected at all. -/
theorem projectorBy_frames_reciprocal :
    let reciprocal : Crs → Projection :=
      fun _ => { Projection.geographic with forward := fun p => .ok ⟨1 / p.x, p.y⟩ }
    let s := (ofGrid 0).withEdge 3
    Crs.crs84.sameSpace .epsg3857 = false
      ∧ s.projectorBy reciprocal ⟨0, 0, 2, 4⟩ .crs84 .epsg3857 = .ok ⟨0.5, 0, 1, 4⟩
      ∧ (∀ order, Box.ofParam ((⟨0.5, 0, 1, 4⟩ : Box).toParam order) order = .ok ⟨0.5, 0, 1, 4⟩)
      ∧ s.projectorBy reciprocal ⟨5, 0, 5, 4⟩ .crs84 .epsg3857
        = .error (.unsupportedTransform .crs84 .epsg3857)
      ∧ s.projector ⟨5, 0, 5, 4⟩ .crs84 .epsg3857
        = .error (.unsupportedTransform .crs84 .epsg3857) := by
  intro reciprocal s
  have hspace : Crs.crs84.sameSpace .epsg3857 = false := by decide
  have hbox : s.projectorBy reciprocal ⟨0, 0, 2, 4⟩ .crs84 .epsg3857 = .ok ⟨0.5, 0, 1, 4⟩ := by
    decide +kernel
  obtain ⟨_, _, _, hread⟩ := (projectorBy_frames reciprocal 0 3 ⟨0, 0, 2, 4⟩ hspace).1 _ hbox
  obtain ⟨_, hreciprocal, _⟩ := projectorBy_frames reciprocal 0 3 ⟨5, 0, 5, 4⟩ hspace
  obtain ⟨_, hown, _, hprojector⟩ := projectorBy_frames Crs.projection 0 3 ⟨5, 0, 5, 4⟩ hspace
  refine ⟨hspace, hbox, hread, hreciprocal.mpr ?_, hprojector ▸ hown.mpr ?_⟩
  · exact .inr ⟨⟨5, 0, 5, 4⟩, by decide +kernel, .inl (by decide +kernel)⟩
  · exact .inr ⟨⟨5, 0, 5, 4⟩, by decide +kernel, .inl (by decide +kernel)⟩

end Sampling

end MapMarkup
