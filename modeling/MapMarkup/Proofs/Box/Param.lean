import MapMarkup.Box.Param
import MapMarkup.Proofs.Decimal.Order
import MapMarkup.Proofs.Decimal.ReadBack
import MapMarkup.Proofs.Text.Fields

/-!
# Boxes read back

A finite box whose minima do not exceed its maxima, written as a parameter and read in the same axis
order, is the box: `Box.ofParam_toParam`. The four numbers read back one by one, because the text of
a finite float holds neither a comma nor a blank. Reading refuses what is inverted, which a box
whose minima are at most its maxima is not.
-/

namespace MapMarkup

/-! ### Coordinates -/

theorem isBlank_of_isDigit {c : Char} (h : c.isDigit = true) : Text.isBlank c = false := by
  rw [Char.isDigit_iff_toNat] at h
  have hlow : 48 ≤ c.toNat := h.1
  have hhigh : c.toNat ≤ 57 := h.2
  simp only [Text.isBlank, Text.inRanges, Text.blankRanges, List.any_cons, List.any_nil,
    Bool.or_eq_false_iff, Bool.and_eq_false_iff, decide_eq_false_iff_not, and_true]
  omega

private theorem isBlank_of_mem_text {x : Float} (hx : x.isFinite = true) {c : Char}
    (hc : c ∈ (Decimal.text x).toList) : Text.isBlank c = false := by
  rcases Decimal.mem_text hx hc with hdigit | rfl | rfl
  · exact isBlank_of_isDigit hdigit
  · decide
  · decide

private theorem trimChars_text {x : Float} (hx : x.isFinite = true) :
    Text.trimChars (Decimal.text x).toList = (Decimal.text x).toList :=
  (Text.trimmed_of_forall fun _ => isBlank_of_mem_text hx).trimChars_eq

theorem readCoordinate_text {x : Float} (hx : x.isFinite = true) :
    Box.readCoordinate (Decimal.text x).toList = .ok x := by
  rw [Box.readCoordinate, Decimal.readFloat_text]
  dsimp only
  rw [if_pos hx]

/-! ### Boxes -/

namespace Box

private theorem place_listed (b : Box) (order : AxisOrder) :
    ∃ x y z w, b.listed order = [x, y, z, w] ∧ place order x y z w = b := by
  cases order
  · exact ⟨_, _, _, _, rfl, rfl⟩
  · exact ⟨_, _, _, _, rfl, rfl⟩

private theorem isFinite_of_mem_listed {b : Box} (h : b.isFinite = true) {order : AxisOrder}
    {x : Float} (hx : x ∈ b.listed order) : x.isFinite = true := by
  simp only [isFinite, Bool.and_eq_true] at h
  obtain ⟨⟨⟨hminX, hminY⟩, hmaxX⟩, hmaxY⟩ := h
  cases order <;>
  · simp only [listed, List.mem_cons, List.not_mem_nil, or_false] at hx
    rcases hx with rfl | rfl | rfl | rfl <;> assumption

theorem isInverted_of_le {b : Box} (hx : b.minX ≤ b.maxX) (hy : b.minY ≤ b.maxY) :
    b.isInverted = false := by
  rw [isInverted, Bool.or_eq_false_iff, decide_eq_false_iff_not, decide_eq_false_iff_not]
  exact ⟨not_lt_of_le hx, not_lt_of_le hy⟩

theorem ofParam_toParam_of_isFinite {b : Box} (hfinite : b.isFinite = true) (order : AxisOrder) :
    ofParam (b.toParam order) order
      = if b.isInverted then .error (.inverted (b.toParam order)) else .ok b := by
  obtain ⟨x, y, z, w, hlisted, hplace⟩ := b.place_listed order
  have hmem : ∀ v ∈ [x, y, z, w], v.isFinite = true := fun v hv =>
    isFinite_of_mem_listed hfinite (hlisted ▸ hv)
  have hsplit : (Text.splitFields ',' (b.toParam order).toList).map Text.trimChars
      = [x, y, z, w].map fun v => (Decimal.text v).toList := by
    rw [toParam, hlisted, Text.toList_join, List.map_map, Text.splitFields_joinFields (by simp)]
    · rw [List.map_map]
      exact List.map_congr_left fun v hv => trimChars_text (hmem v hv)
    · intro part hpart
      obtain ⟨v, hv, rfl⟩ := List.mem_map.mp hpart
      exact Decimal.notMem_text (by decide) (by decide) v
  rw [List.map_cons, List.map_cons, List.map_cons, List.map_singleton] at hsplit
  unfold ofParam
  rw [hsplit]
  dsimp only
  rw [readCoordinate_text (hmem x (by simp)), readCoordinate_text (hmem y (by simp)),
    readCoordinate_text (hmem z (by simp)), readCoordinate_text (hmem w (by simp)), ← hplace]
  rfl

/-- A box reads back from its parameter in the axis order it was written in. -/
theorem ofParam_toParam {b : Box} (hfinite : b.isFinite = true) (hx : b.minX ≤ b.maxX)
    (hy : b.minY ≤ b.maxY) (order : AxisOrder) : ofParam (b.toParam order) order = .ok b := by
  rw [ofParam_toParam_of_isFinite hfinite, isInverted_of_le hx hy, if_neg (by decide)]

end Box

end MapMarkup
