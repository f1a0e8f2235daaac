import MapMarkup.Proofs.Box.Order

/-!
# Boxes in either axis order

The same box can be written with the latitude first or with the longitude first. Four texts, put
between commas in the one order and read in that order, give the box that they give in the other
order, or no box in both (`Box.ofParam_swap`). The texts may be anything: one with a comma of its
own makes more than four parts in either order. Which texts give a box at all does not depend on the
order either (`Box.exists_ofParam_iff`).
-/

namespace MapMarkup

private theorem append_eq_four_iff {α : Type} {as bs cs ds : List α} {p q r s : α} (ha : as ≠ [])
    (hb : bs ≠ []) (hc : cs ≠ []) (hd : ds ≠ []) :
    as ++ (bs ++ (cs ++ ds)) = [p, q, r, s] ↔ as = [p] ∧ bs = [q] ∧ cs = [r] ∧ ds = [s] := by
  constructor
  · intro h
    obtain ⟨a, as, rfl⟩ := List.exists_cons_of_ne_nil ha
    obtain ⟨b, bs, rfl⟩ := List.exists_cons_of_ne_nil hb
    obtain ⟨c, cs, rfl⟩ := List.exists_cons_of_ne_nil hc
    obtain ⟨d, ds, rfl⟩ := List.exists_cons_of_ne_nil hd
    have hlength := congrArg List.length h
    simp only [List.length_append, List.length_cons, List.length_nil] at hlength
    have hnil : as = [] ∧ bs = [] ∧ cs = [] ∧ ds = [] := by
      simp only [← List.length_eq_zero_iff]
      omega
    obtain ⟨rfl, rfl, rfl, rfl⟩ := hnil
    simpa using h
  · rintro ⟨rfl, rfl, rfl, rfl⟩
    rfl

namespace Box

/-- The parts of a text between commas, without the blanks around them. -/
def partsOf (text : String) : List (List Char) :=
  (Text.splitFields ',' text.toList).map Text.trimChars

theorem partsOf_ne_nil (text : String) : partsOf text ≠ [] := by
  simp [partsOf, Text.splitFields_ne_nil]

private theorem partsOf_join_eq_four_iff {a b c d : String} {p q r s : List Char} :
    (Text.splitFields ',' (Text.join ',' [a, b, c, d]).toList).map Text.trimChars = [p, q, r, s]
      ↔ partsOf a = [p] ∧ partsOf b = [q] ∧ partsOf c = [r] ∧ partsOf d = [s] := by
  rw [Text.toList_join, Text.splitFields_joinFields_flatMap ',' (by simp), ← append_eq_four_iff
    (partsOf_ne_nil a) (partsOf_ne_nil b) (partsOf_ne_nil c) (partsOf_ne_nil d)]
  simp [partsOf]

/-- The text is four finite numbers between commas, and the first two are at most the last two. -/
def IsWritten (text : String) : Prop :=
  ∃ x y z w : Float, (partsOf text).map Decimal.readFloat = [some x, some y, some z, some w]
    ∧ (∀ v ∈ [x, y, z, w], v.isFinite = true) ∧ x ≤ z ∧ y ≤ w

/-- Whether a text gives a box does not depend on the axis order. -/
theorem exists_ofParam_iff {text : String} {order : AxisOrder} :
    (∃ box, ofParam text order = .ok box) ↔ IsWritten text := by
  constructor
  · rintro ⟨box, h⟩
    have hordered := (isOrdered_of_ofParam h).2
    obtain ⟨p, q, r, s, x, y, z, w, hparts, hp, hq, hr, hs, rfl, _⟩ := ofParam_eq_ok_iff.mp h
    rw [readCoordinate_eq_ok_iff] at hp hq hr hs
    refine ⟨x, y, z, w, ?_, ?_, ?_⟩
    · rw [partsOf, hparts, List.map_cons, hp.1, List.map_cons, hq.1, List.map_cons, hr.1,
        List.map_singleton, hs.1]
    · simp [hp.2, hq.2, hr.2, hs.2]
    · cases order with
      | xy => exact ⟨hordered.x, hordered.y⟩
      | latLon => exact ⟨hordered.y, hordered.x⟩
  · rintro ⟨x, y, z, w, hread, hfinite, hxz, hyw⟩
    obtain ⟨p, q, r, s, hparts, hp, hq, hr, hs⟩ : ∃ p q r s, partsOf text = [p, q, r, s]
        ∧ Decimal.readFloat p = some x ∧ Decimal.readFloat q = some y
        ∧ Decimal.readFloat r = some z ∧ Decimal.readFloat s = some w := by
      simpa [List.map_eq_cons_iff, and_assoc] using hread
    refine ⟨place order x y z w, ofParam_eq_ok_iff.mpr ⟨p, q, r, s, x, y, z, w, hparts, ?_⟩⟩
    simp only [List.forall_mem_cons] at hfinite
    obtain ⟨hx, hy, hz, hw, _⟩ := hfinite
    refine ⟨readCoordinate_eq_ok_iff.mpr ⟨hp, hx⟩, readCoordinate_eq_ok_iff.mpr ⟨hq, hy⟩,
      readCoordinate_eq_ok_iff.mpr ⟨hr, hz⟩, readCoordinate_eq_ok_iff.mpr ⟨hs, hw⟩, rfl, ?_⟩
    cases order with
    | xy => exact isInverted_of_le hxz hyw
    | latLon => exact isInverted_of_le hyw hxz

/-- Four texts give the same box in either axis order. -/
theorem ofParam_swap {a b c d : String} {box : Box} :
    ofParam (Text.join ',' [b, a, d, c]) .latLon = .ok box
      ↔ ofParam (Text.join ',' [a, b, c, d]) .xy = .ok box := by
  simp only [ofParam_eq_ok_iff, partsOf_join_eq_four_iff]
  constructor
  · rintro ⟨p, q, r, s, x, y, z, w, ⟨hb, ha, hd, hc⟩, hp, hq, hr, hs, hbox, hinverted⟩
    exact ⟨q, p, s, r, y, x, w, z, ⟨ha, hb, hc, hd⟩, hq, hp, hs, hr, hbox, hinverted⟩
  · rintro ⟨p, q, r, s, x, y, z, w, ⟨ha, hb, hc, hd⟩, hp, hq, hr, hs, hbox, hinverted⟩
    exact ⟨q, p, s, r, y, x, w, z, ⟨hb, ha, hd, hc⟩, hq, hp, hs, hr, hbox, hinverted⟩

end Box

end MapMarkup
