import MapMarkup.TiledCrs
import MapMarkup.Proofs.Decimal.Value

/-!
# The levels of a pyramid

From level to level a pixel spans less and the scale grows finer, in the listed tables as well as in
the halved ones (`Tcrs.falls_resolution`, `Tcrs.falls_scaleDenominator`). What is said of the
searches over the levels uses no more of the tables than this.
-/

namespace MapMarkup

theorem mem_zoomLevels {z : Nat} : z ∈ zoomLevels ↔ z ≤ deepestZoom := by
  rw [zoomLevels, List.mem_range, Nat.lt_succ_iff]

/-- Numbers for the levels, each less than the one before, of which the first is finite and the
last positive. -/
structure Falls (f : Nat → Float) : Prop where
  first : (f 0).isFinite = true
  step : ∀ z < deepestZoom, f (z + 1) < f z
  last : 0 < f deepestZoom

namespace Falls

variable {f : Nat → Float} {a b z : Nat}

private theorem not_isNaN (h : Falls f) (hz : z ≤ deepestZoom) : (f z).isNaN = false := by
  rcases hz.lt_or_eq with hlt | rfl
  · exact (isNaN_of_le (float_le_of_lt (h.step z hlt))).2
  · exact (isNaN_of_le (float_le_of_lt h.last)).2

theorem le (h : Falls f) (hab : a ≤ b) (hb : b ≤ deepestZoom) : f b ≤ f a := by
  induction b, hab using Nat.le_induction with
  | base => exact float_le_refl (h.not_isNaN hb)
  | succ b _ ih => exact float_le_trans (float_le_of_lt (h.step b hb)) (ih (Nat.le_of_lt hb))

theorem lt (h : Falls f) (hab : a < b) (hb : b ≤ deepestZoom) : f b < f a :=
  float_lt_of_le_of_lt (h.le hab hb) (h.step a (hab.trans_le hb))

theorem pos (h : Falls f) (hz : z ≤ deepestZoom) : 0 < f z :=
  float_lt_of_lt_of_le h.last (h.le hz le_rfl)

theorem isFinite (h : Falls f) (hz : z ≤ deepestZoom) : (f z).isFinite = true :=
  isFinite_of_between (by decide) h.first (float_le_of_lt (h.pos hz)) (h.le (Nat.zero_le z) hz)

theorem value_pos (h : Falls f) (hz : z ≤ deepestZoom) : 0 < Decimal.value (f z) := by
  rw [← Decimal.value_zero, ← Decimal.lt_iff_value_lt (by decide) (h.isFinite hz)]
  exact h.pos hz

theorem value_le (h : Falls f) (hab : a ≤ b) (hb : b ≤ deepestZoom) :
    Decimal.value (f b) ≤ Decimal.value (f a) := by
  rw [← Decimal.le_iff_value_le (h.isFinite hb) (h.isFinite (hab.trans hb))]
  exact h.le hab hb

end Falls

namespace Tcrs

theorem falls_resolution (t : Tcrs) : Falls t.resolution := by
  cases t <;> exact ⟨by decide +kernel, by decide +kernel, by decide +kernel⟩

end Tcrs

end MapMarkup
