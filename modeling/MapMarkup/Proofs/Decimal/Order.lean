import Mathlib
import MapMarkup.Box

/-!
# The linear order of floats

Floats that are no NaN are ordered by sign, exponent and mantissa (`le_iff_rank_le`), so their order
is a linear one. A NaN is neither at most nor below any number, so that one comparison that holds
tells that both of its sides are numbers.
-/

namespace MapMarkup

open Float.Model

theorem compare_swap (a b : UnpackedFloat) : b.compare a = (a.compare b).map Ordering.swap := by
  cases a with
  | notANumber => cases b <;> rfl
  | infinity s =>
    cases b with
    | infinity t => cases s <;> cases t <;> rfl
    | _ => cases s <;> rfl
  | zero s =>
    cases b with
    | infinity t => cases t <;> rfl
    | finite t m e h => cases t <;> rfl
    | _ => rfl
  | finite s m e h =>
    cases b with
    | notANumber => rfl
    | infinity t => cases t <;> rfl
    | zero t => cases s <;> rfl
    | finite t n f k =>
      cases s <;> cases t
      · simp [UnpackedFloat.compare, Ordering.swap_then, Int.compare_swap, Nat.compare_swap]
      · rfl
      · rfl
      · simp [UnpackedFloat.compare, Ordering.swap_then, Int.compare_swap, Nat.compare_swap]

/-- Where a number stands among the others: by its sign, infinite or not, and then by exponent and
mantissa. -/
def rank : UnpackedFloat → ℤ ×ₗ ℤ ×ₗ ℤ
  | .notANumber => toLex (0, toLex (0, 0))
  | .infinity .negative => toLex (-2, toLex (0, 0))
  | .finite .negative m e _ => toLex (-1, toLex (-e, -m))
  | .zero _ => toLex (0, toLex (0, 0))
  | .finite .positive m e _ => toLex (1, toLex (e, m))
  | .infinity .positive => toLex (2, toLex (0, 0))

theorem isLE_compare_iff {a b : UnpackedFloat} (ha : a.isNaN = false) (hb : b.isNaN = false) :
    (a.compare b).any (·.isLE) = true ↔ rank a ≤ rank b := by
  cases a with
  | notANumber => cases ha
  | infinity s =>
      cases b with
      | notANumber => cases hb
      | infinity t => cases s <;> cases t <;> decide
      | zero t => cases s <;> simp [UnpackedFloat.compare, rank, Prod.Lex.toLex_le_toLex]
      | finite t n f k =>
          cases s <;> cases t <;> simp [UnpackedFloat.compare, rank, Prod.Lex.toLex_le_toLex]
  | zero s =>
      cases b with
      | notANumber => cases hb
      | infinity t => cases t <;> simp [UnpackedFloat.compare, rank, Prod.Lex.toLex_le_toLex]
      | zero t => simp [UnpackedFloat.compare, rank]
      | finite t n f k => cases t <;> simp [UnpackedFloat.compare, rank, Prod.Lex.toLex_le_toLex]
  | finite s m e h =>
      cases b with
      | notANumber => cases hb
      | infinity t =>
          cases s <;> cases t <;> simp [UnpackedFloat.compare, rank, Prod.Lex.toLex_le_toLex]
      | zero t => cases s <;> simp [UnpackedFloat.compare, rank, Prod.Lex.toLex_le_toLex]
      | finite t n f k =>
          have hthen (e f : ℤ) (m n : ℕ) : ((compare e f).then (compare m n)).isLE = true
              ↔ e < f ∨ e = f ∧ m ≤ n := by
            rw [Ordering.isLE_then_iff_or, compare_lt_iff_lt, compare_eq_iff_eq, Nat.isLE_compare]
          cases s <;> cases t
          · simp [UnpackedFloat.compare, rank, Prod.Lex.toLex_le_toLex, Ordering.swap_then,
              Int.compare_swap, Nat.compare_swap, hthen, @eq_comm ℤ e f]
          · simp [UnpackedFloat.compare, rank, Prod.Lex.toLex_le_toLex]
          · simp [UnpackedFloat.compare, rank, Prod.Lex.toLex_le_toLex]
          · simp [UnpackedFloat.compare, rank, Prod.Lex.toLex_le_toLex, hthen]

theorem le_iff_any {x y : Float} :
    x ≤ y ↔ (x.toModel.unpack.compare y.toModel.unpack).any (·.isLE) = true :=
  ⟨fun h => of_decide_eq_true h, fun h => decide_eq_true h⟩

theorem lt_iff_eq_some {x y : Float} :
    x < y ↔ x.toModel.unpack.compare y.toModel.unpack = some .lt := by
  rw [← beq_iff_eq]
  exact ⟨fun h => of_decide_eq_true h, fun h => decide_eq_true h⟩

theorem isNaN_of_le {x y : Float} (h : x ≤ y) : x.isNaN = false ∧ y.isNaN = false := by
  change x.toModel.unpack.isNaN = false ∧ y.toModel.unpack.isNaN = false
  rw [le_iff_any] at h
  cases hx : x.toModel.unpack <;> cases hy : y.toModel.unpack <;> rw [hx, hy] at h <;>
    first | exact ⟨rfl, rfl⟩ | cases h

theorem le_iff_rank_le {x y : Float} (hx : x.isNaN = false) (hy : y.isNaN = false) :
    x ≤ y ↔ rank x.toModel.unpack ≤ rank y.toModel.unpack :=
  le_iff_any.trans (isLE_compare_iff hx hy)

theorem float_le_refl {x : Float} (hx : x.isNaN = false) : x ≤ x :=
  (le_iff_rank_le hx hx).mpr (le_refl _)

theorem float_le_trans {x y z : Float} (hxy : x ≤ y) (hyz : y ≤ z) : x ≤ z := by
  obtain ⟨hx, hy⟩ := isNaN_of_le hxy
  have hz := (isNaN_of_le hyz).2
  rw [le_iff_rank_le hx hy] at hxy
  rw [le_iff_rank_le hy hz] at hyz
  rw [le_iff_rank_le hx hz]
  exact hxy.trans hyz

theorem float_le_of_lt {x y : Float} (h : x < y) : x ≤ y := by
  rw [lt_iff_eq_some] at h
  rw [le_iff_any, h]
  rfl

theorem float_le_of_not_lt {x y : Float} (hx : x.isNaN = false) (hy : y.isNaN = false)
    (h : ¬ y < x) : x ≤ y := by
  rw [le_iff_rank_le hx hy]
  by_contra hrank
  have hle : y ≤ x := (le_iff_rank_le hy hx).mpr (le_of_not_ge hrank)
  rw [← isLE_compare_iff hx hy, compare_swap] at hrank
  rw [le_iff_any] at hle
  rw [lt_iff_eq_some] at h
  cases hcompare : y.toModel.unpack.compare x.toModel.unpack with
  | none => rw [hcompare] at hle; cases hle
  | some o =>
      rw [hcompare] at hrank hle h
      cases o with
      | lt => exact h rfl
      | eq => exact hrank rfl
      | gt => cases hle

theorem not_lt_of_le {x y : Float} (h : x ≤ y) : ¬ y < x := by
  intro hlt
  have hle : (x.toModel.unpack.compare y.toModel.unpack).any (·.isLE) = true := of_decide_eq_true h
  have hgt : (y.toModel.unpack.compare x.toModel.unpack == some .lt) = true :=
    of_decide_eq_true hlt
  rw [compare_swap, beq_iff_eq] at hgt
  cases hcompare : x.toModel.unpack.compare y.toModel.unpack with
  | none => rw [hcompare] at hle; exact absurd hle (by decide)
  | some o =>
    rw [hcompare] at hle hgt
    cases o with
    | gt => exact absurd hle (by decide)
    | lt => exact absurd hgt (by decide)
    | eq => exact absurd hgt (by decide)

theorem float_lt_of_lt_of_le {x y z : Float} (hxy : x < y) (hyz : y ≤ z) : x < z := by
  obtain ⟨hx, _⟩ := isNaN_of_le (float_le_of_lt hxy)
  obtain ⟨_, hz⟩ := isNaN_of_le hyz
  by_contra hlt
  exact not_lt_of_le (float_le_trans hyz (float_le_of_not_lt hz hx hlt)) hxy

theorem float_lt_of_le_of_lt {x y z : Float} (hxy : x ≤ y) (hyz : y < z) : x < z := by
  obtain ⟨hx, _⟩ := isNaN_of_le hxy
  obtain ⟨_, hz⟩ := isNaN_of_le (float_le_of_lt hyz)
  by_contra hlt
  exact not_lt_of_le (float_le_trans (float_le_of_not_lt hz hx hlt) hxy) hyz

theorem isNaN_of_isFinite {x : Float} (h : x.isFinite = true) : x.isNaN = false := by
  change x.toModel.unpack.isFinite = true at h
  change x.toModel.unpack.isNaN = false
  cases hx : x.toModel.unpack <;> rw [hx] at h <;> first | rfl | cases h

theorem isFinite_of_between {x y z : Float} (hx : x.isFinite = true) (hz : z.isFinite = true)
    (hxy : x ≤ y) (hyz : y ≤ z) : y.isFinite = true := by
  change x.toModel.unpack.isFinite = true at hx
  change z.toModel.unpack.isFinite = true at hz
  change y.toModel.unpack.isFinite = true
  rw [le_iff_any] at hxy hyz
  cases hy : y.toModel.unpack with
  | notANumber =>
      rw [hy] at hyz
      cases hyz
  | zero => rfl
  | finite => rfl
  | infinity s =>
      rw [hy] at hxy hyz
      cases s with
      | positive =>
          cases hbound : z.toModel.unpack <;> rw [hbound] at hz hyz <;> cases hz <;> cases hyz
      | negative =>
          cases hbound : x.toModel.unpack <;> rw [hbound] at hx hxy <;> cases hx <;> cases hxy

end MapMarkup
