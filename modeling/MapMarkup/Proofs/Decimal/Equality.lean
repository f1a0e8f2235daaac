import MapMarkup.Proofs.Decimal.Value

/-!
# Equal floats

Two floats compare as equal when each of them is at most the other (`beq_iff_le_le`). They are then
the same float, or two zeros with signs of their own (`eq_or_zeros_of_beq`).
-/

namespace MapMarkup

open Decimal

variable {x y : Float}

theorem beq_iff_le_le : (x == y) = true ↔ x ≤ y ∧ y ≤ x := by
  have hbeq : (x == y) = (x.toModel.unpack.compare y.toModel.unpack == some .eq) := rfl
  rw [hbeq, le_iff_any, le_iff_any, compare_swap x.toModel.unpack y.toModel.unpack]
  cases x.toModel.unpack.compare y.toModel.unpack with
  | none => decide
  | some o => cases o <;> decide

/-- Finite floats that stand for the same number are the same, or both are zeros. -/
theorem eq_or_zeros_of_value_eq (hx : x.isFinite = true) (hy : y.isFinite = true)
    (h : value x = value y) : x = y ∨ ∃ s t, x = signedZero s ∧ y = signedZero t := by
  rcases eq_zero_or_eq_signed hx with ⟨s, rfl⟩ | ⟨s, m, e, hm, rfl⟩ <;>
    rcases eq_zero_or_eq_signed hy with ⟨t, rfl⟩ | ⟨t, n, f, hn, rfl⟩
  · exact .inr ⟨s, t, rfl, rfl⟩
  · have hpos := hn.magnitude_pos
    rw [value_signedZero, value_signed] at h
    cases t <;> simp only [withSign] at h <;> linarith
  · have hpos := hm.magnitude_pos
    rw [value_signedZero, value_signed] at h
    cases s <;> simp only [withSign] at h <;> linarith
  · left
    have hpos := hm.magnitude_pos
    have hpos' := hn.magnitude_pos
    rw [value_signed, value_signed] at h
    have hsign : s = t ∧ (m : ℚ) * 2 ^ e = n * 2 ^ f := by
      cases s <;> cases t <;> simp only [withSign] at h
      · exact ⟨rfl, neg_injective h⟩
      · linarith
      · linarith
      · exact ⟨rfl, h⟩
    obtain ⟨rfl, hmagnitude⟩ := hsign
    have hle := (hm.lex_le_iff hn).mpr hmagnitude.le
    have hge := (hn.lex_le_iff hm).mpr hmagnitude.ge
    obtain rfl : e = f := by omega
    obtain rfl : m = n := by omega
    rfl

/-- Equal floats are the same but for the signs of zeros. -/
theorem eq_or_zeros_of_beq (h : (x == y) = true) :
    x = y ∨ ∃ s t, x = signedZero s ∧ y = signedZero t := by
  obtain ⟨hxy, hyx⟩ := beq_iff_le_le.mp h
  cases hx : x.isFinite with
  | true =>
      have hy : y.isFinite = true := isFinite_of_between hx hx hxy hyx
      refine eq_or_zeros_of_value_eq hx hy (le_antisymm ?_ ?_)
      · exact (le_iff_value_le hx hy).mp hxy
      · exact (le_iff_value_le hy hx).mp hyx
  | false =>
      have hy : y.isFinite = false := by
        rw [← Bool.not_eq_true] at hx ⊢
        exact fun hy => hx (isFinite_of_between hy hy hyx hxy)
      left
      rcases eq_infinite_or_eq_notANumber hx with ⟨s, rfl⟩ | rfl
      · rcases eq_infinite_or_eq_notANumber hy with ⟨t, rfl⟩ | rfl
        · revert h
          cases s <;> cases t <;> decide
        · exact absurd (isNaN_of_le hxy).2 (by decide)
      · exact absurd (isNaN_of_le hxy).1 (by decide)

theorem eq_of_beq_of_ne_zero (h : (x == y) = true) (hne : (y == 0) = false) : x = y := by
  rcases eq_or_zeros_of_beq h with heq | ⟨_, t, _, rfl⟩
  · exact heq
  · have hzero : (signedZero t == 0) = true := by cases t <;> decide
    rw [hzero] at hne
    cases hne

end MapMarkup
