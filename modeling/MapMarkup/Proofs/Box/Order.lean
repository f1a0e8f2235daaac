import MapMarkup.Proofs.Box.Param
import MapMarkup.Proofs.Outcome

/-!
# Ordered boxes

A box is ordered when its minima are at most its maxima, which also says that none of them is a NaN.
Unions of ordered boxes are ordered, and so are intersections and the boxes around points. What is
left of any box within a finite one is finite.
-/

namespace MapMarkup

/-! ### The lesser and the greater number -/

theorem least_eq_or (a b : Float) : least a b = a ∨ least a b = b := by
  unfold least
  split
  · exact .inr rfl
  · split
    · exact .inl rfl
    · split
      · exact .inr rfl
      · exact .inl rfl

theorem greatest_eq_or (a b : Float) : greatest a b = a ∨ greatest a b = b := by
  unfold greatest
  split
  · exact .inr rfl
  · split
    · exact .inl rfl
    · split
      · exact .inr rfl
      · exact .inl rfl

section

variable {a b : Float}

theorem least_le (ha : a.isNaN = false) (hb : b.isNaN = false) : least a b ≤ a ∧ least a b ≤ b := by
  unfold least
  rw [ha, hb]
  by_cases h : b < a
  · simpa [h] using ⟨float_le_of_lt h, float_le_refl hb⟩
  · simpa [h] using ⟨float_le_refl ha, float_le_of_not_lt ha hb h⟩

theorem le_greatest (ha : a.isNaN = false) (hb : b.isNaN = false) :
    a ≤ greatest a b ∧ b ≤ greatest a b := by
  unfold greatest
  rw [ha, hb]
  by_cases h : a < b
  · simpa [h] using ⟨float_le_of_lt h, float_le_refl hb⟩
  · simpa [h] using ⟨float_le_refl ha, float_le_of_not_lt hb ha h⟩

theorem isFinite_least (ha : a.isFinite = true) (hb : b.isFinite = true) :
    (least a b).isFinite = true := by
  rcases least_eq_or a b with h | h <;> rw [h] <;> assumption

theorem isFinite_greatest (ha : a.isFinite = true) (hb : b.isFinite = true) :
    (greatest a b).isFinite = true := by
  rcases greatest_eq_or a b with h | h <;> rw [h] <;> assumption

end

/-! ### Intervals -/

section

variable {a b c d : Float}

theorem least_le_greatest (hab : a ≤ b) (hcd : c ≤ d) : least a c ≤ greatest b d := by
  obtain ⟨ha, hb⟩ := isNaN_of_le hab
  obtain ⟨hc, hd⟩ := isNaN_of_le hcd
  exact float_le_trans (float_le_trans (least_le ha hc).1 hab) (le_greatest hb hd).1

theorem greatest_le_least (hab : a ≤ b) (hcd : c ≤ d) (had : a < d) (hcb : c < b) :
    greatest a c ≤ least b d := by
  rcases greatest_eq_or a c with hlow | hlow <;> rcases least_eq_or b d with hhigh | hhigh <;>
    rw [hlow, hhigh]
  · exact hab
  · exact float_le_of_lt had
  · exact float_le_of_lt hcb
  · exact hcd

/-- What an interval has in common with a finite one that it meets is finite. -/
theorem isFinite_common (hc : c.isFinite = true) (hd : d.isFinite = true) (had : a < d)
    (hcb : c < b) : (greatest a c).isFinite = true ∧ (least b d).isFinite = true := by
  have ha := (isNaN_of_le (float_le_of_lt had)).1
  have hb := (isNaN_of_le (float_le_of_lt hcb)).2
  constructor
  · rcases greatest_eq_or a c with heq | heq
    · have hlow : c ≤ greatest a c := (le_greatest ha (isNaN_of_isFinite hc)).2
      rw [heq] at hlow ⊢
      exact isFinite_of_between hc hd hlow (float_le_of_lt had)
    · rwa [heq]
  · rcases least_eq_or b d with heq | heq
    · have hhigh : least b d ≤ d := (least_le hb (isNaN_of_isFinite hd)).2
      rw [heq] at hhigh ⊢
      exact isFinite_of_between hc hd (float_le_of_lt hcb) hhigh
    · rwa [heq]

end

/-! ### Boxes -/

namespace Box

structure IsOrdered (b : Box) : Prop where
  x : b.minX ≤ b.maxX
  y : b.minY ≤ b.maxY

variable {a b c : Box}

theorem isOrdered_of_isInverted (hfinite : b.isFinite = true) (h : b.isInverted = false) :
    b.IsOrdered := by
  simp only [isFinite, Bool.and_eq_true] at hfinite
  obtain ⟨⟨⟨hminX, hminY⟩, hmaxX⟩, hmaxY⟩ := hfinite
  rw [isInverted, Bool.or_eq_false_iff, decide_eq_false_iff_not, decide_eq_false_iff_not] at h
  exact ⟨float_le_of_not_lt (isNaN_of_isFinite hminX) (isNaN_of_isFinite hmaxX) h.1,
    float_le_of_not_lt (isNaN_of_isFinite hminY) (isNaN_of_isFinite hmaxY) h.2⟩

theorem readCoordinate_eq_ok_iff {part : List Char} {x : Float} :
    readCoordinate part = .ok x ↔ Decimal.readFloat part = some x ∧ x.isFinite = true := by
  unfold readCoordinate
  cases Decimal.readFloat part with
  | none => simp
  | some y =>
    dsimp only
    split
    case isTrue hfinite =>
      rw [Except.ok.injEq, Option.some.injEq]
      exact ⟨fun h => ⟨h, h ▸ hfinite⟩, And.left⟩
    case isFalse hfinite =>
      rw [Option.some.injEq]
      constructor
      · intro h
        cases h
      · rintro ⟨rfl, h⟩
        exact absurd h hfinite

/-- A parameter is read exactly when it is four finite numbers that make no inverted box. -/
theorem ofParam_eq_ok_iff {text : String} {order : AxisOrder} :
    ofParam text order = .ok b ↔ ∃ p q r s x y z w,
      (Text.splitFields ',' text.toList).map Text.trimChars = [p, q, r, s]
      ∧ readCoordinate p = .ok x ∧ readCoordinate q = .ok y ∧ readCoordinate r = .ok z
      ∧ readCoordinate s = .ok w ∧ b = place order x y z w ∧ b.isInverted = false := by
  unfold ofParam
  constructor
  · intro h
    split at h
    case h_2 => cases h
    case h_1 p q r s hparts =>
      obtain ⟨x, hx, h⟩ := bind_eq_ok_iff.mp h
      obtain ⟨y, hy, h⟩ := bind_eq_ok_iff.mp h
      obtain ⟨z, hz, h⟩ := bind_eq_ok_iff.mp h
      obtain ⟨w, hw, h⟩ := bind_eq_ok_iff.mp h
      dsimp only at h
      split at h
      case isTrue => cases h
      case isFalse hinverted =>
        cases h
        exact ⟨p, q, r, s, x, y, z, w, hparts, hx, hy, hz, hw, rfl, by simpa using hinverted⟩
  · rintro ⟨p, q, r, s, x, y, z, w, hparts, hx, hy, hz, hw, rfl, hinverted⟩
    rw [hparts]
    dsimp only
    rw [hx, hy, hz, hw]
    change (if (place order x y z w).isInverted = true then _ else _) = _
    rw [hinverted, if_neg (by decide)]

theorem isOrdered_of_ofParam {text : String} {order : AxisOrder} (h : ofParam text order = .ok b) :
    b.isFinite = true ∧ b.IsOrdered := by
  obtain ⟨_, _, _, _, x, y, z, w, _, hx, hy, hz, hw, rfl, hinverted⟩ := ofParam_eq_ok_iff.mp h
  have hfinite : (place order x y z w).isFinite = true := by
    cases order <;>
      simp [place, isFinite, (readCoordinate_eq_ok_iff.mp hx).2,
        (readCoordinate_eq_ok_iff.mp hy).2, (readCoordinate_eq_ok_iff.mp hz).2,
        (readCoordinate_eq_ok_iff.mp hw).2]
  exact ⟨hfinite, isOrdered_of_isInverted hfinite hinverted⟩

theorem IsOrdered.union (ha : a.IsOrdered) (hb : b.IsOrdered) : (a.union b).IsOrdered :=
  ⟨least_le_greatest ha.x hb.x, least_le_greatest ha.y hb.y⟩

theorem isFinite_union (ha : a.isFinite = true) (hb : b.isFinite = true) :
    (a.union b).isFinite = true := by
  simp only [isFinite, Bool.and_eq_true, union] at *
  obtain ⟨⟨⟨hminX, hminY⟩, hmaxX⟩, hmaxY⟩ := ha
  obtain ⟨⟨⟨hminX', hminY'⟩, hmaxX'⟩, hmaxY'⟩ := hb
  exact ⟨⟨⟨isFinite_least hminX hminX', isFinite_least hminY hminY'⟩,
    isFinite_greatest hmaxX hmaxX'⟩, isFinite_greatest hmaxY hmaxY'⟩

theorem intersection?_eq_some (h : a.intersection? b = some c) :
    (a.minX < b.maxX ∧ b.minX < a.maxX ∧ a.minY < b.maxY ∧ b.minY < a.maxY)
      ∧ c = ⟨greatest a.minX b.minX, greatest a.minY b.minY, least a.maxX b.maxX,
          least a.maxY b.maxY⟩ := by
  unfold intersection? at h
  split at h
  case isFalse => cases h
  case isTrue hcross =>
    cases h
    simp only [intersects, Bool.and_eq_true, decide_eq_true_eq] at hcross
    obtain ⟨⟨⟨hx, hx'⟩, hy⟩, hy'⟩ := hcross
    exact ⟨⟨hx, hx', hy, hy'⟩, rfl⟩

theorem IsOrdered.intersection (ha : a.IsOrdered) (hb : b.IsOrdered)
    (h : a.intersection? b = some c) : c.IsOrdered := by
  obtain ⟨⟨hx, hx', hy, hy'⟩, rfl⟩ := intersection?_eq_some h
  exact ⟨greatest_le_least ha.x hb.x hx hx', greatest_le_least ha.y hb.y hy hy'⟩

theorem isFinite_of_intersection? (hb : b.isFinite = true) (h : a.intersection? b = some c) :
    c.isFinite = true := by
  obtain ⟨⟨hx, hx', hy, hy'⟩, rfl⟩ := intersection?_eq_some h
  simp only [isFinite, Bool.and_eq_true] at hb ⊢
  obtain ⟨⟨⟨hminX, hminY⟩, hmaxX⟩, hmaxY⟩ := hb
  obtain ⟨hlowX, hhighX⟩ := isFinite_common hminX hmaxX hx hx'
  obtain ⟨hlowY, hhighY⟩ := isFinite_common hminY hmaxY hy hy'
  exact ⟨⟨⟨hlowX, hlowY⟩, hhighX⟩, hhighY⟩

theorem isOrdered_ofPoint {p : Point} (h : p.isFinite = true) :
    (ofPoint p).isFinite = true ∧ (ofPoint p).IsOrdered := by
  simp only [Point.isFinite, Bool.and_eq_true] at h
  refine ⟨?_, float_le_refl (isNaN_of_isFinite h.1), float_le_refl (isNaN_of_isFinite h.2)⟩
  simp [isFinite, ofPoint, h.1, h.2]

theorem isOrdered_of_around? {points : List Point} (hpoints : ∀ p ∈ points, p.isFinite = true)
    (h : around? points = some b) : b.isFinite = true ∧ b.IsOrdered := by
  cases points with
  | nil => cases h
  | cons p ps =>
      cases h
      rw [List.forall_mem_cons] at hpoints
      refine List.foldlRecOn (motive := fun box => box.isFinite = true ∧ box.IsOrdered) ps expand
        (isOrdered_ofPoint hpoints.1) fun box hbox q hq => ?_
      obtain ⟨hfinite, hordered⟩ := isOrdered_ofPoint (hpoints.2 q hq)
      have hexpand : box.expand q = box.union (ofPoint q) := rfl
      rw [hexpand]
      exact ⟨isFinite_union hbox.1 hfinite, hbox.2.union hordered⟩

end Box

end MapMarkup
