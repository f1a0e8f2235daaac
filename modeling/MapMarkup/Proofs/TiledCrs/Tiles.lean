import MapMarkup.Template
import MapMarkup.Proofs.TiledCrs.Levels

/-!
# Do the tiles cover the bounds?

The number of columns and rows of a level is counted from the size of the bounds, but tiles are
counted from the origin. Where the origin is the top left corner of the bounds, as the first tile's
corner should be, the two views agree and every point of the bounds lies in a tile of the matrix.
CBMTILE has its origin above its bounds, so that its rows end too early, and the lowest points of
its bounds lie in a row that the matrix does not have (`Tcrs.tileMatrix_covers`).
-/

namespace MapMarkup

def Input.Admits (i : Input) (n : ℤ) : Prop :=
  (∀ low ∈ i.min, Decimal.value low ≤ n) ∧ ∀ high ∈ i.max, n ≤ Decimal.value high

namespace Tcrs

def tileSpan (t : Tcrs) (zoom : Nat) : ℚ :=
  Decimal.value (t.resolution zoom) * tileSize

/-- The column of tiles that an x coordinate lies in, counted from the origin. -/
noncomputable def column (t : Tcrs) (zoom : Nat) (x : ℝ) : ℤ :=
  ⌊(x - Decimal.value t.grid.origin.x) / t.tileSpan zoom⌋

noncomputable def row (t : Tcrs) (zoom : Nat) (y : ℝ) : ℤ :=
  ⌊(Decimal.value t.grid.origin.y - y) / t.tileSpan zoom⌋

section

variable (t : Tcrs) (zoom : Nat)

/-! ### Past the deepest level -/

private theorem resolution_min : t.resolution (min zoom deepestZoom) = t.resolution zoom := by
  simp only [resolution, deepestZoom, min_self, min_assoc]

theorem tileMatrix_min : t.tileMatrix (min zoom deepestZoom) = t.tileMatrix zoom := by
  simp only [tileMatrix, min_self, min_assoc]

theorem tileSpan_min : t.tileSpan (min zoom deepestZoom) = t.tileSpan zoom := by
  rw [tileSpan, resolution_min, tileSpan]

/-! ### What the tables hold -/

theorem tileSpan_pos : (0 : ℝ) < t.tileSpan zoom := by
  have hpos := t.falls_resolution.value_pos (min_le_right zoom deepestZoom)
  rw [← tileSpan_min]
  exact_mod_cast mul_pos hpos (by norm_num [tileSize])

/-- The columns of a level reach the right edge of the bounds, and the rows reach the lower edge,
save those of one tiled system at all of its levels but one. -/
theorem tileMatrix_extent : ∀ z ≤ deepestZoom,
    Decimal.value t.bounds.maxX
      ≤ Decimal.value t.grid.origin.x + (t.tileMatrix z).width * t.tileSpan z
    ∧ (Decimal.value t.grid.origin.y - (t.tileMatrix z).height * t.tileSpan z
      ≤ Decimal.value t.bounds.minY ↔ t ≠ cbmTile ∨ z = 1)
    ∧ (t.tileMatrix z).width ≤ 2 ^ 53 ∧ (t.tileMatrix z).height ≤ 2 ^ 53 := by
  cases t <;> decide +kernel

theorem bounds_extent : Decimal.value t.grid.origin.x ≤ Decimal.value t.bounds.minX
    ∧ Decimal.value t.bounds.maxY ≤ Decimal.value t.grid.origin.y
    ∧ Decimal.value t.bounds.minY < Decimal.value t.bounds.maxY := by
  cases t <;> decide +kernel

/-! ### Columns and rows -/

variable {t zoom} {x y : ℝ} {n : Nat}

private theorem column_lt_iff : t.column zoom x < n
    ↔ x < Decimal.value t.grid.origin.x + n * t.tileSpan zoom := by
  rw [column, Int.floor_lt, Int.cast_natCast, div_lt_iff₀ (t.tileSpan_pos zoom),
    sub_lt_iff_lt_add']

theorem row_lt_iff : t.row zoom y < n
    ↔ Decimal.value t.grid.origin.y - n * t.tileSpan zoom < y := by
  rw [row, Int.floor_lt, Int.cast_natCast, div_lt_iff₀ (t.tileSpan_pos zoom), sub_lt_comm]

private theorem column_nonneg (h : Decimal.value t.bounds.minX ≤ x) : 0 ≤ t.column zoom x := by
  have horigin : (Decimal.value t.grid.origin.x : ℝ) ≤ Decimal.value t.bounds.minX := by
    exact_mod_cast t.bounds_extent.1
  exact Int.floor_nonneg.mpr (div_nonneg (by linarith) (t.tileSpan_pos zoom).le)

private theorem row_nonneg (h : y ≤ Decimal.value t.bounds.maxY) : 0 ≤ t.row zoom y := by
  have horigin : (Decimal.value t.bounds.maxY : ℝ) ≤ Decimal.value t.grid.origin.y := by
    exact_mod_cast t.bounds_extent.2.1
  exact Int.floor_nonneg.mpr (div_nonneg (by linarith) (t.tileSpan_pos zoom).le)

private theorem column_lt_width (h : x < Decimal.value t.bounds.maxX) :
    t.column zoom x < (t.tileMatrix zoom).width := by
  have hreach := (t.tileMatrix_extent (min zoom deepestZoom) (min_le_right ..)).1
  rw [tileMatrix_min, tileSpan_min] at hreach
  rw [column_lt_iff]
  exact h.trans_le (by exact_mod_cast hreach)

/-- All rows over the bounds are in the matrix exactly where the rows reach the lower edge. -/
theorem forall_row_lt_height_iff : (∀ y : ℝ, Decimal.value t.bounds.minY < y →
      y ≤ Decimal.value t.bounds.maxY → t.row zoom y < (t.tileMatrix zoom).height)
    ↔ t ≠ cbmTile ∨ min zoom deepestZoom = 1 := by
  rw [← (t.tileMatrix_extent (min zoom deepestZoom) (min_le_right ..)).2.1, tileMatrix_min,
    tileSpan_min]
  simp only [row_lt_iff]
  have hbounds : (Decimal.value t.bounds.minY : ℝ) < Decimal.value t.bounds.maxY := by
    exact_mod_cast t.bounds_extent.2.2
  constructor
  · intro hrows
    by_contra hshort
    have hshort' : (Decimal.value t.bounds.minY : ℝ)
        < Decimal.value t.grid.origin.y - (t.tileMatrix zoom).height * t.tileSpan zoom := by
      exact_mod_cast not_le.mp hshort
    exact (hrows _ (lt_min hbounds hshort') (min_le_left ..)).not_ge (min_le_right ..)
  · intro hreach y hlow _
    exact lt_of_le_of_lt (by exact_mod_cast hreach) hlow

/-! ### The inputs for tiles -/

theorem admits_withRange {i : Input} {tiles : Nat} (hpos : 0 < tiles) (hle : tiles ≤ 2 ^ 53)
    (k : ℤ) : (i.withRange 0 (Float.ofNat (tiles - 1))).Admits k ↔ 0 ≤ k ∧ k < tiles := by
  have hlast := Decimal.value_ofNat (n := tiles - 1) (by omega)
  have hcast : ((tiles - 1 : Nat) : ℤ) = tiles - 1 := by omega
  simp only [Input.Admits, Input.withRange, Option.mem_def, Option.some.injEq, forall_eq',
    Decimal.value_zero, hlast]
  rw [← Int.cast_natCast (tiles - 1), Int.cast_le, Int.cast_nonneg_iff, hcast]
  omega

end

/-- **The tiles over the bounds.** Every point of the bounds lies in a column of the matrix, and in
a row of it exactly when it is above the lower edge of the last row. -/
theorem tileMatrix_covers (t : Tcrs) (zoom : Nat) :
    (∀ x : ℝ, Decimal.value t.bounds.minX ≤ x → x < Decimal.value t.bounds.maxX →
      0 ≤ t.column zoom x ∧ t.column zoom x < (t.tileMatrix zoom).width)
    ∧ (∀ y : ℝ, Decimal.value t.bounds.minY < y → y ≤ Decimal.value t.bounds.maxY →
      0 ≤ t.row zoom y ∧ (t.row zoom y < (t.tileMatrix zoom).height
        ↔ Decimal.value t.grid.origin.y - (t.tileMatrix zoom).height * t.tileSpan zoom < y))
    ∧ ((∀ y : ℝ, Decimal.value t.bounds.minY < y → y ≤ Decimal.value t.bounds.maxY →
      t.row zoom y < (t.tileMatrix zoom).height) ↔ t ≠ cbmTile ∨ min zoom deepestZoom = 1)
    ∧ ∀ s : ImageSource, s.fetching = .wmts → s.tcrs = t → s.zoom.min = zoom →
      ∃ x y : Input, s.imageInputs = [.input x, .input y]
        ∧ x.axis = some .column ∧ y.axis = some .row
        ∧ (∀ k, x.Admits k ↔ 0 ≤ k ∧ k < (t.tileMatrix zoom).width)
        ∧ ∀ k, y.Admits k ↔ 0 ≤ k ∧ k < (t.tileMatrix zoom).height := by
  refine ⟨fun x hlow hhigh => ⟨column_nonneg hlow, column_lt_width hhigh⟩,
    fun y _ hhigh => ⟨row_nonneg hhigh, row_lt_iff⟩, forall_row_lt_height_iff, ?_⟩
  rintro s hfetching rfl rfl
  obtain ⟨-, -, hwidth, hheight⟩ :=
    s.tcrs.tileMatrix_extent (min s.zoom.min deepestZoom) (min_le_right ..)
  rw [tileMatrix_min] at hwidth hheight
  refine ⟨_, _, by rw [ImageSource.imageInputs, hfetching]; rfl, rfl, rfl, ?_, ?_⟩
  · exact admits_withRange (lt_max_of_lt_left Nat.one_pos) hwidth
  · exact admits_withRange (lt_max_of_lt_left Nat.one_pos) hheight

/-- A point of the web map lies in a tile of level 3, which the inputs for the tiles admit. -/
theorem tileMatrix_covers_osmTile : ∃ (s : ImageSource) (x y : Input),
    s.fetching = .wmts ∧ s.tcrs = osmTile ∧ s.zoom.min = 3
    ∧ (osmTile.tileMatrix 3).width = 8 ∧ (osmTile.tileMatrix 3).height = 8
    ∧ s.imageInputs = [.input x, .input y]
    ∧ x.Admits (osmTile.column 3 1000000) ∧ y.Admits (osmTile.row 3 2000000) := by
  let s : ImageSource :=
    { base := "http://h/", tcrs := osmTile, layers := "lakes", queryLayers := none, styles := "",
      cacheLayer := "lakes", fetching := .wmts, zoom := ⟨3, 5⟩, imageFormat := "image/png",
      language := none, sharding := none }
  have hbounds : Decimal.value osmTile.bounds.minX ≤ 1000000
      ∧ 1000000 < Decimal.value osmTile.bounds.maxX ∧ Decimal.value osmTile.bounds.minY < 2000000
      ∧ 2000000 ≤ Decimal.value osmTile.bounds.maxY := by decide +kernel
  obtain ⟨hleft, hright, hlow, hhigh⟩ := hbounds
  obtain ⟨hcolumns, hrows, hall, hinputs⟩ := tileMatrix_covers osmTile 3
  have hcolumn := hcolumns 1000000 (by exact_mod_cast hleft) (by exact_mod_cast hright)
  have hrow := (hrows 2000000 (by exact_mod_cast hlow) (by exact_mod_cast hhigh)).1
  have hlast := hall.mpr (.inl (by decide)) 2000000 (by exact_mod_cast hlow)
    (by exact_mod_cast hhigh)
  obtain ⟨x, y, hnodes, -, -, hx, hy⟩ := hinputs s rfl rfl rfl
  exact ⟨s, x, y, rfl, rfl, rfl, by decide +kernel, by decide +kernel, hnodes,
    (hx _).mpr hcolumn, (hy _).mpr ⟨hrow, hlast⟩⟩

/-- A point of the bounds of CBMTILE lies in row 8 of level 0, whose last row is row 7. -/
theorem cbmTile_row_missing : Decimal.value cbmTile.bounds.minY < -39300000
    ∧ -39300000 ≤ Decimal.value cbmTile.bounds.maxY
    ∧ cbmTile.row 0 (-39300000) = 8 ∧ (cbmTile.tileMatrix 0).height = 8 := by
  have horigin : Decimal.value cbmTile.grid.origin.y = 39310000 := by decide +kernel
  have hspan : 8 * cbmTile.tileSpan 0 ≤ 78610000 ∧ 78610000 < 9 * cbmTile.tileSpan 0 := by
    decide +kernel
  have hlow : (8 : ℝ) * cbmTile.tileSpan 0 ≤ 78610000 := by exact_mod_cast hspan.1
  have hhigh : (78610000 : ℝ) < 9 * cbmTile.tileSpan 0 := by exact_mod_cast hspan.2
  have hpos := cbmTile.tileSpan_pos 0
  refine ⟨by decide +kernel, by decide +kernel, ?_, by decide +kernel⟩
  rw [row, horigin, Int.floor_eq_iff, le_div_iff₀ hpos, div_lt_iff₀ hpos]
  push_cast
  constructor <;> linarith

end Tcrs

end MapMarkup
