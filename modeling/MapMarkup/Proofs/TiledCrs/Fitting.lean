import MapMarkup.Proofs.Decimal.Division
import MapMarkup.Proofs.TiledCrs.Levels

/-!
# The deepest level that fits

The search goes from the deepest level up and stops at the first level at which the region fits the
viewport. That finds the deepest such level, and every coarser level fits too, because what fits at
a level fits in the larger pixels of the one above it (`isDeepest_fittingLevel`). This holds with
rounded quotients, for which `Decimal.div_le_of_div_le` is needed, as well as with exact ones. With
exact quotients it follows that a smaller region or a larger viewport has no coarser level
(`fittingLevel_mono`).
-/

namespace MapMarkup

/-! ### Searching from the deepest level up -/

/-- The level is the deepest one that fits, and each coarser one fits; it is level 0 if no level
fits. -/
structure IsDeepest (fits : Nat → Prop) (level : Nat) : Prop where
  le_deepest : level ≤ deepestZoom
  above : ∀ z ≤ deepestZoom, level < z → ¬ fits z
  below : (∃ z ≤ deepestZoom, fits z) → ∀ z ≤ level, fits z
  coarsest : (∀ z ≤ deepestZoom, ¬ fits z) → level = 0

section

variable {p : Nat → Bool} {fits fits' : Nat → Prop} {n z a b : Nat}

private theorem of_find?_reverse_range (h : (List.range n).reverse.find? p = some z) :
    z < n ∧ p z = true ∧ ∀ k < n, z < k → p k = false := by
  induction n with
  | zero => cases h
  | succ n ih =>
    rw [List.range_succ, List.reverse_append, List.reverse_singleton, List.singleton_append] at h
    cases hn : p n with
    | true =>
      rw [List.find?_cons_of_pos hn, Option.some.injEq] at h
      subst h
      exact ⟨Nat.lt_succ_self n, hn, fun k hk hlt => by omega⟩
    | false =>
      rw [List.find?_cons_of_neg (by simp [hn])] at h
      obtain ⟨hz, hp, hmiss⟩ := ih h
      refine ⟨Nat.lt_succ_of_lt hz, hp, fun k hk hlt => ?_⟩
      rcases Nat.lt_succ_iff_lt_or_eq.mp hk with hk | rfl
      · exact hmiss k hk hlt
      · exact hn

/-- The search finds the deepest level, if with a level every coarser one fits. -/
theorem isDeepest_find? (hp : ∀ z, p z = true ↔ fits z)
    (hdown : ∀ a b, a ≤ b → b ≤ deepestZoom → fits b → fits a) :
    IsDeepest fits ((zoomLevels.reverse.find? p).getD 0) := by
  cases hfind : zoomLevels.reverse.find? p with
  | none =>
    have hmiss : ∀ z ≤ deepestZoom, ¬ fits z := by
      intro z hz
      rw [← hp]
      exact List.find?_eq_none.mp hfind z (List.mem_reverse.mpr (mem_zoomLevels.mpr hz))
    exact ⟨Nat.zero_le _, fun z hz _ => hmiss z hz, fun ⟨z, hz, hfits⟩ => absurd hfits (hmiss z hz),
      fun _ => rfl⟩
  | some level =>
    obtain ⟨hlt, hlevel, hmiss⟩ := of_find?_reverse_range hfind
    have hle : level ≤ deepestZoom := Nat.lt_succ_iff.mp hlt
    rw [hp] at hlevel
    refine ⟨hle, fun z hz habove => ?_, fun _ z hz => hdown z level hz hle hlevel, fun hnone => ?_⟩
    · rw [← hp, hmiss z (Nat.lt_succ_iff.mpr hz) habove]
      exact Bool.false_ne_true
    · exact absurd hlevel (hnone level hle)

theorem IsDeepest.mono (ha : IsDeepest fits a) (hb : IsDeepest fits' b)
    (h : ∀ z ≤ deepestZoom, fits z → fits' z) : a ≤ b := by
  by_contra hlt
  rw [not_le] at hlt
  have hfits : ¬ fits a := mt (h a ha.le_deepest) (hb.above a ha.le_deepest hlt)
  have hnone : ∀ z ≤ deepestZoom, ¬ fits z := fun z hz hz' => hfits (ha.below ⟨z, hz, hz'⟩ a le_rfl)
  rw [ha.coarsest hnone] at hlt
  exact Nat.not_lt_zero b hlt

end

/-! ### With rounded quotients -/

namespace Tcrs

private theorem isDeepest_fittingZoom (t : Tcrs) (box : Box) (width height : Nat) :
    IsDeepest (fun z => box.width / t.resolution z ≤ Float.ofNat width
      ∧ box.height / t.resolution z ≤ Float.ofNat height) (t.fittingZoom box width height) := by
  have hfalls := t.falls_resolution
  apply isDeepest_find?
  · intro z
    rw [fitsViewport, Bool.and_eq_true, decide_eq_true_eq, decide_eq_true_eq]
  · rintro a b hab hb ⟨hwidth, hheight⟩
    have hpos := hfalls.pos hb
    have hle := hfalls.le hab hb
    have hfinite := hfalls.isFinite (hab.trans hb)
    exact ⟨Decimal.div_le_of_div_le hpos hle hfinite (Decimal.ofNat_nonneg width) hwidth,
      Decimal.div_le_of_div_le hpos hle hfinite (Decimal.ofNat_nonneg height) hheight⟩

/-! ### With exact quotients -/

variable {α : Type} [Field α] [LinearOrder α]

/-- The deepest level at which a region fits a viewport, with exact quotients. -/
def exactFitting (t : Tcrs) (extentX extentY : α) (width height : Nat) : Nat :=
  fittingLevel (fun z => (Decimal.value (t.resolution z) : α)) extentX extentY width height

def Fits (t : Tcrs) (extentX extentY : α) (width height : Nat) (z : Nat) : Prop :=
  extentX / Decimal.value (t.resolution z) ≤ width
    ∧ extentY / Decimal.value (t.resolution z) ≤ height

variable [IsStrictOrderedRing α] {extentX extentX' extentY extentY' : α}
  {width width' height height' : Nat}

private theorem Fits.coarser {t : Tcrs} {a b : Nat} (h : t.Fits extentX extentY width height b)
    (hab : a ≤ b) (hb : b ≤ deepestZoom) : t.Fits extentX extentY width height a := by
  have hfalls := t.falls_resolution
  have hpos : (0 : α) < Decimal.value (t.resolution b) := by exact_mod_cast hfalls.value_pos hb
  have hle : (Decimal.value (t.resolution b) : α) ≤ Decimal.value (t.resolution a) := by
    exact_mod_cast hfalls.value_le hab hb
  have hpos' := hpos.trans_le hle
  obtain ⟨hx, hy⟩ := h
  rw [div_le_iff₀ hpos] at hx hy
  constructor
  · rw [div_le_iff₀ hpos']
    exact hx.trans (by gcongr)
  · rw [div_le_iff₀ hpos']
    exact hy.trans (by gcongr)

theorem isDeepest_exactFitting (t : Tcrs) (extentX extentY : α) (width height : Nat) :
    IsDeepest (t.Fits extentX extentY width height)
      (t.exactFitting extentX extentY width height) := by
  apply isDeepest_find?
  · intro z
    rw [fitsViewport, Bool.and_eq_true, decide_eq_true_eq, decide_eq_true_eq, Fits]
  · exact fun a b hab hb h => h.coarser hab hb

theorem Fits.mono {t : Tcrs} {z : Nat} (hz : z ≤ deepestZoom)
    (h : t.Fits extentX extentY width height z) (hx : extentX' ≤ extentX) (hy : extentY' ≤ extentY)
    (hw : width ≤ width') (hh : height ≤ height') :
    t.Fits extentX' extentY' width' height' z := by
  have hpos : (0 : α) < Decimal.value (t.resolution z) := by
    exact_mod_cast t.falls_resolution.value_pos hz
  constructor
  · calc extentX' / Decimal.value (t.resolution z) ≤ extentX / Decimal.value (t.resolution z) := by
          gcongr
      _ ≤ width := h.1
      _ ≤ width' := by exact_mod_cast hw
  · calc extentY' / Decimal.value (t.resolution z) ≤ extentY / Decimal.value (t.resolution z) := by
          gcongr
      _ ≤ height := h.2
      _ ≤ height' := by exact_mod_cast hh

/-- **The deepest level that fits.** Each coarser level fits too, level 0 stands in if none fits,
and with exact quotients a smaller region or a larger viewport has no coarser level. -/
theorem fitting_isDeepest (α : Type) [Field α] [LinearOrder α] [IsStrictOrderedRing α] (t : Tcrs) :
    (∀ (box : Box) (width height : Nat),
      IsDeepest (fun z => box.width / t.resolution z ≤ Float.ofNat width
        ∧ box.height / t.resolution z ≤ Float.ofNat height) (t.fittingZoom box width height))
    ∧ (∀ (extentX extentY : α) (width height : Nat),
      IsDeepest (fun z => extentX / Decimal.value (t.resolution z) ≤ width
        ∧ extentY / Decimal.value (t.resolution z) ≤ height)
        (t.exactFitting extentX extentY width height))
    ∧ ∀ (extentX extentX' extentY extentY' : α) (width width' height height' : Nat),
      extentX' ≤ extentX → extentY' ≤ extentY → width ≤ width' → height ≤ height' →
      t.exactFitting extentX extentY width height
        ≤ t.exactFitting extentX' extentY' width' height' := by
  refine ⟨t.isDeepest_fittingZoom, t.isDeepest_exactFitting, ?_⟩
  intro extentX extentX' extentY extentY' width width' height height' hx hy hw hh
  exact (t.isDeepest_exactFitting extentX extentY width height).mono
    (t.isDeepest_exactFitting extentX' extentY' width' height')
    fun z hz h => h.mono hz hx hy hw hh

/-- A region that fits at level 3 of the listed resolutions; a part of it is shown no coarser. -/
theorem fitting_isDeepest_cbmTile :
    cbmTile.exactFitting (4000000 : ℚ) 3000000 800 600 = 3
      ∧ IsDeepest (fun z => (4000000 : ℚ) / Decimal.value (cbmTile.resolution z) ≤ (800 : Nat)
        ∧ (3000000 : ℚ) / Decimal.value (cbmTile.resolution z) ≤ (600 : Nat)) 3
      ∧ 3 ≤ cbmTile.exactFitting (1000000 : ℚ) 3000000 800 700 := by
  have hlevel : cbmTile.exactFitting (4000000 : ℚ) 3000000 800 600 = 3 := by decide +kernel
  obtain ⟨-, hdeepest, hmono⟩ := fitting_isDeepest ℚ cbmTile
  have hfits := hdeepest 4000000 3000000 800 600
  have hle := hmono 4000000 1000000 3000000 3000000 800 800 600 700 (by norm_num) le_rfl le_rfl
    (by norm_num)
  rw [hlevel] at hfits hle
  exact ⟨hlevel, hfits, hle⟩

end Tcrs

end MapMarkup
