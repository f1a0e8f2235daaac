import MapMarkup.Proofs.Box.Order

/-!
# Unions of boxes

Each side of a union of boxes is a side of one of them and is exceeded by none, where a NaN counts
only if there is nothing else (`Box.isUnion_foldl`). The least box around points is the union of
boxes that are points (`Box.isUnion_of_around?`).
-/

namespace MapMarkup

/-! ### Extremes of a row of numbers -/

/-- The number is one of the row and stands in the relation to each of them that is a number. -/
structure IsExtreme (R : Float → Float → Prop) (x : Float) (xs : List Float) : Prop where
  mem : x ∈ xs
  bound : ∀ y ∈ xs, y.isNaN = false → R x y

/-- The least of a row of numbers; a NaN only if there is nothing else. -/
def IsLeastOf : Float → List Float → Prop := IsExtreme fun x y => x ≤ y

def IsGreatestOf : Float → List Float → Prop := IsExtreme fun x y => y ≤ x

/-- A choice between two numbers that keeps to a relation, taken along a row, keeps to it. -/
theorem isExtreme_foldl {R : Float → Float → Prop} {choose : Float → Float → Float}
    (hchoose : ∀ a b, choose a b = a ∨ choose a b = b)
    (hleft : ∀ a b, a.isNaN = false → R (choose a b) a)
    (hright : ∀ a b, b.isNaN = false → R (choose a b) b)
    (htrans : ∀ a b c, R a b → R b c → R a c) (hnumber : ∀ a b, R a b → a.isNaN = false)
    (x : Float) (xs : List Float) : IsExtreme R (xs.foldl choose x) (x :: xs) := by
  induction xs generalizing x with
  | nil =>
    refine ⟨List.mem_singleton_self x, fun y hy hnum => ?_⟩
    obtain rfl := List.mem_singleton.mp hy
    have hself := hleft y y hnum
    rcases hchoose y y with h | h <;> rwa [h] at hself
  | cons y ys ih =>
    rw [List.foldl_cons]
    obtain ⟨hmem, hbound⟩ := ih (choose x y)
    have hfirst {z : Float} (hz : R (choose x y) z) :
        R (ys.foldl choose (choose x y)) z :=
      htrans _ _ _ (hbound _ List.mem_cons_self (hnumber _ _ hz)) hz
    constructor
    · rcases List.mem_cons.mp hmem with h | h
      · rw [h]
        rcases hchoose x y with hx | hy
        · rw [hx]
          exact List.mem_cons_self
        · rw [hy]
          exact List.mem_cons_of_mem x List.mem_cons_self
      · exact List.mem_cons_of_mem x (List.mem_cons_of_mem y h)
    · intro z hz hnum
      rcases List.mem_cons.mp hz with rfl | hz
      · exact hfirst (hleft z y hnum)
      · rcases List.mem_cons.mp hz with rfl | hz
        · exact hfirst (hright x z hnum)
        · exact hbound z (List.mem_cons_of_mem _ hz) hnum

theorem least_le_left (a b : Float) (ha : a.isNaN = false) : least a b ≤ a := by
  cases hb : b.isNaN with
  | false => exact (least_le ha hb).1
  | true =>
    unfold least
    rw [ha, hb]
    exact float_le_refl ha

theorem least_le_right (a b : Float) (hb : b.isNaN = false) : least a b ≤ b := by
  cases ha : a.isNaN with
  | false => exact (least_le ha hb).2
  | true =>
    unfold least
    rw [ha]
    exact float_le_refl hb

theorem left_le_greatest (a b : Float) (ha : a.isNaN = false) : a ≤ greatest a b := by
  cases hb : b.isNaN with
  | false => exact (le_greatest ha hb).1
  | true =>
    unfold greatest
    rw [ha, hb]
    exact float_le_refl ha

theorem right_le_greatest (a b : Float) (hb : b.isNaN = false) : b ≤ greatest a b := by
  cases ha : a.isNaN with
  | false => exact (le_greatest ha hb).2
  | true =>
    unfold greatest
    rw [ha]
    exact float_le_refl hb

theorem isLeastOf_foldl (x : Float) (xs : List Float) :
    IsLeastOf (xs.foldl least x) (x :: xs) :=
  isExtreme_foldl (R := fun x y => x ≤ y) least_eq_or least_le_left least_le_right
    (fun _ _ _ => float_le_trans) (fun _ _ hab => (isNaN_of_le hab).1) x xs

theorem isGreatestOf_foldl (x : Float) (xs : List Float) :
    IsGreatestOf (xs.foldl greatest x) (x :: xs) :=
  isExtreme_foldl (R := fun x y => y ≤ x) greatest_eq_or left_le_greatest right_le_greatest
    (fun _ _ _ hba hcb => float_le_trans hcb hba) (fun _ _ hba => (isNaN_of_le hba).2) x xs

namespace Box

/-- The box is the union of boxes: its minima are the least of theirs and its maxima the greatest.
-/
structure IsUnion (b : Box) (boxes : List Box) : Prop where
  minX : IsLeastOf b.minX (boxes.map Box.minX)
  minY : IsLeastOf b.minY (boxes.map Box.minY)
  maxX : IsGreatestOf b.maxX (boxes.map Box.maxX)
  maxY : IsGreatestOf b.maxY (boxes.map Box.maxY)

theorem side_foldl_union {f : Box → Float} {g : Float → Float → Float}
    (hside : ∀ a b : Box, f (a.union b) = g (f a) (f b)) (b : Box) (bs : List Box) :
    f (bs.foldl union b) = (bs.map f).foldl g (f b) := by
  rw [List.foldl_map]
  exact (List.foldl_hom f fun x y => (hside x y).symm).symm

theorem isUnion_foldl (b : Box) (bs : List Box) : (bs.foldl union b).IsUnion (b :: bs) := by
  constructor
  · rw [side_foldl_union (f := minX) (g := least) fun _ _ => rfl]
    exact isLeastOf_foldl b.minX _
  · rw [side_foldl_union (f := minY) (g := least) fun _ _ => rfl]
    exact isLeastOf_foldl b.minY _
  · rw [side_foldl_union (f := maxX) (g := greatest) fun _ _ => rfl]
    exact isGreatestOf_foldl b.maxX _
  · rw [side_foldl_union (f := maxY) (g := greatest) fun _ _ => rfl]
    exact isGreatestOf_foldl b.maxY _

/-! ### Boxes around points -/

theorem foldl_expand (b : Box) (ps : List Point) :
    ps.foldl expand b = (ps.map ofPoint).foldl union b := by
  rw [List.foldl_map]
  rfl

theorem around?_cons (p : Point) (ps : List Point) :
    around? (p :: ps) = some ((ps.map ofPoint).foldl union (ofPoint p)) :=
  congrArg some (foldl_expand (ofPoint p) ps)

theorem exists_around?_iff {points : List Point} :
    (∃ b, around? points = some b) ↔ points ≠ [] := by
  cases points with
  | nil => simp [around?]
  | cons p ps => simp [around?]

variable {points : List Point} {b : Box}

theorem isUnion_of_around? (h : around? points = some b) : b.IsUnion (points.map ofPoint) := by
  cases points with
  | nil => cases h
  | cons p ps =>
    rw [around?_cons] at h
    cases h
    exact isUnion_foldl (ofPoint p) (ps.map ofPoint)

theorem contains_of_around? (hpoints : ∀ p ∈ points, p.isFinite = true)
    (h : around? points = some b) {p : Point} (hp : p ∈ points) : b.contains p = true := by
  have hunion := isUnion_of_around? h
  have hfinite := hpoints p hp
  simp only [Point.isFinite, Bool.and_eq_true] at hfinite
  have hx := isNaN_of_isFinite hfinite.1
  have hy := isNaN_of_isFinite hfinite.2
  have hbox : ofPoint p ∈ points.map ofPoint := List.mem_map_of_mem hp
  have hminX := hunion.minX.bound p.x (List.mem_map_of_mem (f := Box.minX) hbox) hx
  have hminY := hunion.minY.bound p.y (List.mem_map_of_mem (f := Box.minY) hbox) hy
  have hmaxX := hunion.maxX.bound p.x (List.mem_map_of_mem (f := Box.maxX) hbox) hx
  have hmaxY := hunion.maxY.bound p.y (List.mem_map_of_mem (f := Box.maxY) hbox) hy
  simp only [contains, Bool.and_eq_true, decide_eq_true_iff]
  exact ⟨⟨⟨hminX, hmaxX⟩, hminY⟩, hmaxY⟩

theorem exists_sides_of_around? (h : around? points = some b) :
    (∃ p ∈ points, p.x = b.minX) ∧ (∃ p ∈ points, p.y = b.minY)
      ∧ (∃ p ∈ points, p.x = b.maxX) ∧ (∃ p ∈ points, p.y = b.maxY) := by
  have hunion := isUnion_of_around? h
  have hside {side : Box → Float} {v : Float} (hmem : v ∈ (points.map ofPoint).map side) :
      ∃ p ∈ points, side (ofPoint p) = v := by
    rw [List.map_map] at hmem
    exact List.mem_map.mp hmem
  exact ⟨hside hunion.minX.mem, hside hunion.minY.mem, hside hunion.maxX.mem,
    hside hunion.maxY.mem⟩

end Box

end MapMarkup
