import MapMarkup.Proofs.Box.Union
import MapMarkup.Proofs.Decimal.Equality

/-!
# The lattice of boxes

Ordered boxes under inclusion. A box lies within another when every point of it does
(`Box.Within`), which for ordered boxes is a comparison of their sides (`Box.within_iff`), and boxes
within each other are the same but for the signs of zeros (`Box.same_iff`). The union of boxes is
the least box that they lie within, and so is the box around points and whatever a box grows to by
steps: `Box.IsHull` says so without the order of the steps. An intersection holds the common points.
-/

namespace MapMarkup

/-! ### Bounds from both sides -/

section

variable {a b c : Float}

theorem le_least_iff (ha : a.isNaN = false) (hb : b.isNaN = false) :
    c ≤ least a b ↔ c ≤ a ∧ c ≤ b := by
  obtain ⟨hleft, hright⟩ := least_le ha hb
  constructor
  · exact fun h => ⟨float_le_trans h hleft, float_le_trans h hright⟩
  · rintro ⟨hca, hcb⟩
    rcases least_eq_or a b with h | h <;> rwa [h]

theorem greatest_le_iff (ha : a.isNaN = false) (hb : b.isNaN = false) :
    greatest a b ≤ c ↔ a ≤ c ∧ b ≤ c := by
  obtain ⟨hleft, hright⟩ := le_greatest ha hb
  constructor
  · exact fun h => ⟨float_le_trans hleft h, float_le_trans hright h⟩
  · rintro ⟨hac, hbc⟩
    rcases greatest_eq_or a b with h | h <;> rwa [h]

end

structure Point.IsNumber (p : Point) : Prop where
  x : p.x.isNaN = false
  y : p.y.isNaN = false

namespace Box

/-! ### Inclusion -/

/-- Every point of the first box is a point of the second. -/
def Within (a b : Box) : Prop :=
  ∀ p, a.contains p = true → b.contains p = true

/-- The sides of two boxes compare as equal: they are the same but for the signs of zeros. -/
structure Same (a b : Box) : Prop where
  minX : (a.minX == b.minX) = true
  minY : (a.minY == b.minY) = true
  maxX : (a.maxX == b.maxX) = true
  maxY : (a.maxY == b.maxY) = true

section

variable {a b c d : Box} {p : Point}

theorem contains_iff : b.contains p = true
    ↔ (b.minX ≤ p.x ∧ p.x ≤ b.maxX) ∧ b.minY ≤ p.y ∧ p.y ≤ b.maxY := by
  simp only [contains, Bool.and_eq_true, decide_eq_true_iff, ge_iff_le]
  rw [and_assoc]

theorem Within.trans (hab : a.Within b) (hbc : b.Within c) : a.Within c :=
  fun p hp => hbc p (hab p hp)

theorem IsOrdered.contains_corners (hb : b.IsOrdered) :
    b.contains ⟨b.minX, b.minY⟩ = true ∧ b.contains ⟨b.maxX, b.maxY⟩ = true := by
  obtain ⟨hminX, hmaxX⟩ := isNaN_of_le hb.x
  obtain ⟨hminY, hmaxY⟩ := isNaN_of_le hb.y
  rw [contains_iff, contains_iff]
  exact ⟨⟨⟨float_le_refl hminX, hb.x⟩, float_le_refl hminY, hb.y⟩,
    ⟨hb.x, float_le_refl hmaxX⟩, hb.y, float_le_refl hmaxY⟩

/-- An ordered box lies within another exactly when its sides do: its corners are points of it. -/
theorem within_iff (ha : a.IsOrdered) : a.Within b
    ↔ (b.minX ≤ a.minX ∧ a.maxX ≤ b.maxX) ∧ b.minY ≤ a.minY ∧ a.maxY ≤ b.maxY := by
  constructor
  · intro h
    obtain ⟨hlow, hhigh⟩ := ha.contains_corners
    replace hlow := contains_iff.mp (h _ hlow)
    replace hhigh := contains_iff.mp (h _ hhigh)
    exact ⟨⟨hlow.1.1, hhigh.1.2⟩, hlow.2.1, hhigh.2.2⟩
  · rintro ⟨⟨hminX, hmaxX⟩, hminY, hmaxY⟩ p hp
    obtain ⟨⟨hleft, hright⟩, hbottom, htop⟩ := contains_iff.mp hp
    exact contains_iff.mpr ⟨⟨float_le_trans hminX hleft, float_le_trans hright hmaxX⟩,
      float_le_trans hminY hbottom, float_le_trans htop hmaxY⟩

theorem within_refl (a : Box) : a.Within a :=
  fun _ hp => hp

theorem same_iff (ha : a.IsOrdered) (hb : b.IsOrdered) :
    a.Same b ↔ a.Within b ∧ b.Within a := by
  rw [within_iff ha, within_iff hb]
  constructor
  · rintro ⟨hminX, hminY, hmaxX, hmaxY⟩
    rw [beq_iff_le_le] at hminX hminY hmaxX hmaxY
    exact ⟨⟨⟨hminX.2, hmaxX.1⟩, hminY.2, hmaxY.1⟩, ⟨hminX.1, hmaxX.2⟩, hminY.1, hmaxY.2⟩
  · rintro ⟨⟨⟨hminX, hmaxX⟩, hminY, hmaxY⟩, ⟨hminX', hmaxX'⟩, hminY', hmaxY'⟩
    constructor <;> rw [beq_iff_le_le] <;> constructor <;> assumption

theorem Same.eq (h : a.Same b)
    (hne : ∀ side ∈ [b.minX, b.minY, b.maxX, b.maxY], (side == 0) = false) : a = b := by
  simp only [List.forall_mem_cons] at hne
  obtain ⟨hminX, hminY, hmaxX, hmaxY, _⟩ := hne
  rw [Box.mk.injEq]
  exact ⟨eq_of_beq_of_ne_zero h.minX hminX, eq_of_beq_of_ne_zero h.minY hminY,
    eq_of_beq_of_ne_zero h.maxX hmaxX, eq_of_beq_of_ne_zero h.maxY hmaxY⟩

/-! ### Hulls -/

/-- The least box around boxes: it is ordered, all of them lie within it, and it lies within every
box that they lie within. -/
structure IsHull (b : Box) (boxes : List Box) : Prop where
  ordered : b.IsOrdered
  holds : ∀ a ∈ boxes, a.Within b
  least : ∀ c, (∀ a ∈ boxes, a.Within c) → b.Within c

variable {boxes others : List Box}

/-- Boxes have one hull, whatever their order is and however often one is listed. -/
theorem IsHull.same (hb : b.IsHull boxes) (hc : c.IsHull others)
    (h : ∀ a, a ∈ boxes ↔ a ∈ others) : b.Same c := by
  rw [same_iff hb.ordered hc.ordered]
  exact ⟨hb.least c fun a ha => hc.holds a ((h a).mp ha),
    hc.least b fun a ha => hb.holds a ((h a).mpr ha)⟩

theorem isHull_singleton (ha : a.IsOrdered) : a.IsHull [a] where
  ordered := ha
  holds := by
    rintro b hb
    rw [List.mem_singleton.mp hb]
    exact within_refl a
  least c hc := hc a List.mem_cons_self

/-- A union lies within a box exactly when both of its boxes do. -/
theorem union_within_iff (ha : a.IsOrdered) (hb : b.IsOrdered) :
    (a.union b).Within c ↔ a.Within c ∧ b.Within c := by
  obtain ⟨hminX, hmaxX⟩ := isNaN_of_le ha.x
  obtain ⟨hminY, hmaxY⟩ := isNaN_of_le ha.y
  obtain ⟨hminX', hmaxX'⟩ := isNaN_of_le hb.x
  obtain ⟨hminY', hmaxY'⟩ := isNaN_of_le hb.y
  rw [within_iff (ha.union hb), within_iff ha, within_iff hb]
  simp only [union, le_least_iff hminX hminX', le_least_iff hminY hminY',
    greatest_le_iff hmaxX hmaxX', greatest_le_iff hmaxY hmaxY']
  tauto

/-- One more box makes the hull of one more box. -/
theorem IsHull.union (hb : b.IsHull boxes) (ha : a.IsOrdered) :
    (b.union a).IsHull (boxes ++ [a]) := by
  have hself := (union_within_iff hb.ordered ha).mp (within_refl (b.union a))
  refine ⟨hb.ordered.union ha, ?_, fun c hc => ?_⟩
  · simp only [List.forall_mem_append, List.forall_mem_singleton]
    exact ⟨fun d hd => (hb.holds d hd).trans hself.1, hself.2⟩
  · simp only [List.forall_mem_append, List.forall_mem_singleton] at hc
    exact (union_within_iff hb.ordered ha).mpr ⟨hb.least c hc.1, hc.2⟩

theorem IsHull.foldl_union (hb : b.IsHull boxes) (h : ∀ a ∈ others, a.IsOrdered) :
    (others.foldl Box.union b).IsHull (boxes ++ others) := by
  induction others generalizing b boxes with
  | nil => rwa [List.append_nil]
  | cons a others ih =>
      rw [List.forall_mem_cons] at h
      have hnext := ih (hb.union h.1) h.2
      rwa [List.append_assoc, List.singleton_append] at hnext

end

/-! ### Points -/

section

variable {b : Box} {points : List Point} {p : Point}

theorem isOrdered_point (hp : p.IsNumber) : (ofPoint p).IsOrdered :=
  ⟨float_le_refl hp.x, float_le_refl hp.y⟩

theorem point_within_iff (hp : p.IsNumber) : (ofPoint p).Within b ↔ b.contains p = true := by
  rw [within_iff (isOrdered_point hp), contains_iff]
  rfl

theorem points_within_iff (hpoints : ∀ p ∈ points, p.IsNumber) :
    (∀ a ∈ points.map ofPoint, a.Within b) ↔ ∀ p ∈ points, b.contains p = true := by
  rw [List.forall_mem_map]
  exact forall₂_congr fun p hp => point_within_iff (hpoints p hp)

theorem isHull_of_around? (hpoints : ∀ p ∈ points, p.IsNumber) (h : around? points = some b) :
    b.IsHull (points.map ofPoint) := by
  cases points with
  | nil => cases h
  | cons p ps =>
      rw [around?_cons] at h
      cases h
      rw [List.forall_mem_cons] at hpoints
      refine (isHull_singleton (isOrdered_point hpoints.1)).foldl_union ?_
      rw [List.forall_mem_map]
      exact fun q hq => isOrdered_point (hpoints.2 q hq)

end

/-! ### Growing -/

/-- A step by which a box grows. -/
inductive Growth where
  | union (other : Box)
  | expand (point : Point)

def Growth.added : Growth → Box
  | union other => other
  | expand point => ofPoint point

def grow (b : Box) : Growth → Box
  | .union other => b.union other
  | .expand point => b.expand point

def Growth.IsOrdered : Growth → Prop
  | union other => other.IsOrdered
  | expand point => point.IsNumber

theorem Growth.IsOrdered.added {s : Growth} (hs : s.IsOrdered) : s.added.IsOrdered := by
  cases s with
  | union other => exact hs
  | expand point => exact isOrdered_point hs

theorem grow_eq (b : Box) (s : Growth) : b.grow s = b.union s.added := by
  cases s <;> rfl

theorem foldl_grow (b : Box) (steps : List Growth) :
    steps.foldl grow b = (steps.map Growth.added).foldl union b := by
  rw [List.foldl_map]
  congr 1
  funext a s
  exact grow_eq a s

/-- Steps make a box the hull of what it was and of all that was added. -/
theorem isHull_foldl_grow {b : Box} {steps : List Growth} (hb : b.IsOrdered)
    (hsteps : ∀ s ∈ steps, s.IsOrdered) :
    (steps.foldl grow b).IsHull (b :: steps.map Growth.added) := by
  rw [foldl_grow]
  apply (isHull_singleton hb).foldl_union
  exact List.forall_mem_map.mpr fun s hs => (hsteps s hs).added

/-! ### Intersections -/

/-- On both axes each box begins before the other ends. -/
structure Crosses (a b : Box) : Prop where
  x : a.minX < b.maxX
  x' : b.minX < a.maxX
  y : a.minY < b.maxY
  y' : b.minY < a.maxY

structure HasArea (b : Box) : Prop where
  x : b.minX < b.maxX
  y : b.minY < b.maxY

section

variable {a b c d : Box}

theorem intersects_iff : a.intersects b = true ↔ a.Crosses b := by
  simp only [intersects, Bool.and_eq_true, decide_eq_true_iff, gt_iff_lt]
  constructor
  · rintro ⟨⟨⟨hx, hx'⟩, hy⟩, hy'⟩
    exact ⟨hx, hx', hy, hy'⟩
  · intro h
    exact ⟨⟨⟨h.x, h.x'⟩, h.y⟩, h.y'⟩

theorem exists_intersection?_iff : (∃ c, a.intersection? b = some c) ↔ a.Crosses b := by
  rw [← intersects_iff]
  unfold intersection?
  split <;> simp_all

/-- An intersection holds the points that both boxes hold, whether they are ordered or not. -/
theorem contains_intersection (h : a.intersection? b = some c) (p : Point) :
    c.contains p = true ↔ a.contains p = true ∧ b.contains p = true := by
  obtain ⟨⟨hx, hx', hy, hy'⟩, rfl⟩ := intersection?_eq_some h
  obtain ⟨hminX, hmaxX'⟩ := isNaN_of_le (float_le_of_lt hx)
  obtain ⟨hminX', hmaxX⟩ := isNaN_of_le (float_le_of_lt hx')
  obtain ⟨hminY, hmaxY'⟩ := isNaN_of_le (float_le_of_lt hy)
  obtain ⟨hminY', hmaxY⟩ := isNaN_of_le (float_le_of_lt hy')
  simp only [contains_iff, greatest_le_iff hminX hminX', greatest_le_iff hminY hminY',
    le_least_iff hmaxX hmaxX', le_least_iff hmaxY hmaxY']
  tauto

theorem contains_corners (hb : b.IsOrdered) (h : a.intersection? b = some c) :
    b.contains ⟨c.minX, c.minY⟩ = true ∧ b.contains ⟨c.maxX, c.maxY⟩ = true := by
  obtain ⟨⟨hx, hx', hy, hy'⟩, rfl⟩ := intersection?_eq_some h
  obtain ⟨hminX, hmaxX'⟩ := isNaN_of_le (float_le_of_lt hx)
  obtain ⟨hminX', hmaxX⟩ := isNaN_of_le (float_le_of_lt hx')
  obtain ⟨hminY, hmaxY'⟩ := isNaN_of_le (float_le_of_lt hy)
  obtain ⟨hminY', hmaxY⟩ := isNaN_of_le (float_le_of_lt hy')
  rw [contains_iff, contains_iff]
  constructor
  · exact ⟨⟨(le_greatest hminX hminX').2,
        (greatest_le_iff hminX hminX').mpr ⟨float_le_of_lt hx, hb.x⟩⟩,
      (le_greatest hminY hminY').2,
      (greatest_le_iff hminY hminY').mpr ⟨float_le_of_lt hy, hb.y⟩⟩
  · exact ⟨⟨(le_least_iff hmaxX hmaxX').mpr ⟨float_le_of_lt hx', hb.x⟩,
        (least_le hmaxX hmaxX').2⟩,
      (le_least_iff hmaxY hmaxY').mpr ⟨float_le_of_lt hy', hb.y⟩, (least_le hmaxY hmaxY').2⟩

theorem same_of_within (hb : b.IsOrdered) (h : a.intersection? b = some c) (hwithin : b.Within a) :
    c.Same b := by
  obtain ⟨⟨hminX, hmaxX⟩, hminY, hmaxY⟩ := (within_iff hb).mp hwithin
  have ha : a.IsOrdered :=
    ⟨float_le_trans hminX (float_le_trans hb.x hmaxX),
      float_le_trans hminY (float_le_trans hb.y hmaxY)⟩
  rw [same_iff (ha.intersection hb h) hb]
  constructor
  · intro p hp
    exact ((contains_intersection h p).mp hp).2
  · intro p hp
    exact (contains_intersection h p).mpr ⟨hwithin p hp, hp⟩

theorem crosses_of_within (hd : d.HasArea) (ha : d.Within a) (hb : d.Within b) : a.Crosses b := by
  have hordered : d.IsOrdered := ⟨float_le_of_lt hd.x, float_le_of_lt hd.y⟩
  obtain ⟨⟨hminX, hmaxX⟩, hminY, hmaxY⟩ := (within_iff hordered).mp ha
  obtain ⟨⟨hminX', hmaxX'⟩, hminY', hmaxY'⟩ := (within_iff hordered).mp hb
  exact ⟨float_lt_of_le_of_lt hminX (float_lt_of_lt_of_le hd.x hmaxX'),
    float_lt_of_le_of_lt hminX' (float_lt_of_lt_of_le hd.x hmaxX),
    float_lt_of_le_of_lt hminY (float_lt_of_lt_of_le hd.y hmaxY'),
    float_lt_of_le_of_lt hminY' (float_lt_of_lt_of_le hd.y hmaxY)⟩

end

/-! ### The lattice -/

section

variable {a b c : Box}

theorem union_isHull (ha : a.IsOrdered) (hb : b.IsOrdered) : (a.union b).IsHull [a, b] :=
  (isHull_singleton ha).union hb

theorem union_comm (ha : a.IsOrdered) (hb : b.IsOrdered) : (a.union b).Same (b.union a) := by
  apply (union_isHull ha hb).same (union_isHull hb ha)
  intro d
  rw [List.mem_pair, List.mem_pair, or_comm]

theorem union_assoc (ha : a.IsOrdered) (hb : b.IsOrdered) (hc : c.IsOrdered) :
    ((a.union b).union c).Same (a.union (b.union c)) := by
  rw [same_iff ((ha.union hb).union hc) (ha.union (hb.union hc))]
  obtain ⟨hab, hc'⟩ := (union_within_iff (ha.union hb) hc).mp (within_refl _)
  obtain ⟨ha', hbc⟩ := (union_within_iff ha (hb.union hc)).mp (within_refl _)
  constructor
  · rw [union_within_iff (ha.union hb) hc, union_within_iff ha hb, and_assoc]
    exact ⟨ha', (union_within_iff hb hc).mp hbc⟩
  · rw [union_within_iff ha (hb.union hc), union_within_iff hb hc, ← and_assoc]
    exact ⟨(union_within_iff ha hb).mp hab, hc'⟩

theorem union_self (ha : a.IsOrdered) : (a.union a).Same a := by
  apply (union_isHull ha ha).same (isHull_singleton ha)
  intro d
  rw [List.mem_pair, List.mem_singleton, or_self]

theorem exists_around {points : List Point} (hne : points ≠ [])
    (hpoints : ∀ p ∈ points, p.IsNumber) :
    ∃ d, around? points = some d ∧ d.IsOrdered ∧ (∀ p ∈ points, d.contains p = true)
      ∧ (∀ e : Box, (∀ p ∈ points, e.contains p = true) → d.Within e)
      ∧ ∀ others, others.Perm points → ∃ e, around? others = some e ∧ e.Same d := by
  obtain ⟨d, hd⟩ := exists_around?_iff.mpr hne
  have hhull := isHull_of_around? hpoints hd
  refine ⟨d, hd, hhull.ordered, (points_within_iff hpoints).mp hhull.holds, fun e he => ?_,
    fun others hperm => ?_⟩
  · exact hhull.least e ((points_within_iff hpoints).mpr he)
  · have hne' : others ≠ [] := by
      intro hnil
      rw [hnil] at hperm
      exact hne hperm.nil_eq.symm
    obtain ⟨e, he⟩ := exists_around?_iff.mpr hne'
    have hhull' := isHull_of_around? (fun p hp => hpoints p (hperm.mem_iff.mp hp)) he
    exact ⟨e, he, hhull'.same hhull fun _ => (hperm.map ofPoint).mem_iff⟩

/-- **The lattice of boxes.** Unions are least boxes around ordered boxes and intersections hold
their common points, so that order, grouping and repetition change no more than the signs of zeros.
-/
theorem lattice (ha : a.IsOrdered) (hb : b.IsOrdered) (hc : c.IsOrdered) :
    ((a.union b).IsHull [a, b] ∧ (a.union b).Same (b.union a)
      ∧ ((a.union b).union c).Same (a.union (b.union c)) ∧ (a.union a).Same a)
    ∧ (((∃ d, a.intersection? b = some d) ↔ a.Crosses b)
      ∧ (∀ d, a.intersection? b = some d → d.IsOrdered
        ∧ ∀ p, d.contains p = true ↔ a.contains p = true ∧ b.contains p = true)
      ∧ (a.intersection? b = none → ∀ d : Box, d.HasArea → ¬ (d.Within a ∧ d.Within b)))
    ∧ (∀ points : List Point, points ≠ [] → (∀ p ∈ points, p.IsNumber) →
      ∃ d, around? points = some d ∧ d.IsOrdered ∧ (∀ p ∈ points, d.contains p = true)
        ∧ (∀ e : Box, (∀ p ∈ points, e.contains p = true) → d.Within e)
        ∧ ∀ others, others.Perm points → ∃ e, around? others = some e ∧ e.Same d)
    ∧ ∀ steps : List Growth, (∀ s ∈ steps, s.IsOrdered) →
      (steps.foldl grow a).IsHull (a :: steps.map Growth.added)
        ∧ ∀ others : List Growth, others.Perm steps →
          (others.foldl grow a).Same (steps.foldl grow a) := by
  refine ⟨⟨union_isHull ha hb, union_comm ha hb, union_assoc ha hb hc, union_self ha⟩,
    ⟨exists_intersection?_iff, fun d hd => ⟨ha.intersection hb hd, contains_intersection hd⟩, ?_⟩,
    fun points hne hpoints => exists_around hne hpoints, fun steps hsteps => ?_⟩
  · intro hnone d hd hwithin
    obtain ⟨e, he⟩ := exists_intersection?_iff.mpr (crosses_of_within hd hwithin.1 hwithin.2)
    rw [hnone] at he
    cases he
  · have hhull := isHull_foldl_grow ha hsteps
    refine ⟨hhull, fun others hperm => ?_⟩
    have hhull' := isHull_foldl_grow ha fun s hs => hsteps s (hperm.mem_iff.mp hs)
    exact hhull'.same hhull fun _ => ((hperm.map Growth.added).cons a).mem_iff

/-- Boxes that touch have no intersection, a box without height has one with a box around it, and
the signs of zeros depend on the order. -/
theorem lattice_zeros :
    let a : Box := ⟨-0, 0, 2, 2⟩
    let b : Box := ⟨0, 1, 3, 1⟩
    let c : Box := ⟨2, 0, 4, 2⟩
    a.IsOrdered ∧ b.IsOrdered ∧ c.IsOrdered
      ∧ a.union b ≠ b.union a ∧ (a.union b).Same (b.union a)
      ∧ ((a.union b).union c).Same (a.union (b.union c))
      ∧ a.intersection? b = some ⟨-0, 1, 2, 1⟩
      ∧ (∀ p, (⟨-0, 1, 2, 1⟩ : Box).contains p = true
        ↔ a.contains p = true ∧ b.contains p = true)
      ∧ a.intersection? c = none ∧ (∀ d : Box, d.HasArea → ¬ (d.Within a ∧ d.Within c))
      ∧ ([.expand ⟨0, 5⟩, .union c].foldl grow a).Same ([.union c, .expand ⟨0, 5⟩].foldl grow a)
    := by
  intro a b c
  have ha : a.IsOrdered := ⟨by decide, by decide⟩
  have hb : b.IsOrdered := ⟨by decide, by decide⟩
  have hc : c.IsOrdered := ⟨by decide, by decide⟩
  have hcross : a.intersection? b = some ⟨-0, 1, 2, 1⟩ := by decide
  have htouch : a.intersection? c = none := by decide
  obtain ⟨⟨_, hcomm, hassoc, _⟩, ⟨_, hcommon, _⟩, _, hgrow⟩ := lattice ha hb hc
  obtain ⟨_, ⟨_, _, harea⟩, _⟩ := lattice ha hc hb
  have hsteps : ∀ s ∈ [Growth.union c, .expand ⟨0, 5⟩], s.IsOrdered := by
    simp only [List.forall_mem_cons]
    exact ⟨hc, ⟨by decide, by decide⟩, List.forall_mem_nil _⟩
  exact ⟨ha, hb, hc, by decide, hcomm, hassoc, hcross, (hcommon _ hcross).2, htouch, harea htouch,
    (hgrow _ hsteps).2 _ (List.Perm.swap _ _ _)⟩

end

end Box

end MapMarkup
