import MapMarkup.GetMap
import MapMarkup.Proofs.Text.Case

/-!
# What a code stands for

A code is looked up among the tiled systems first and among the reference systems then. No text is
found in both tables (`Crs.ofText_of_tiled`), so the order of the two does not matter, and what a
code resolves to can be said with one case for each table (`resolveCrs_eq_ok_iff`). A box has the
latitude first for one reference system alone, and only in version 1.3 (`resolveCrs_latLon_iff`).
-/

namespace MapMarkup

theorem ofText?_code (t : Tcrs) : Tcrs.ofText? t.code = some t := by
  cases t <;> decide +kernel

theorem Tcrs.eq_of_ofText? {text : String} {t : Tcrs} (h : ofText? text = some t) :
    (Text.trimChars text.toList).map Char.toLower = t.name.toList.map Char.toLower
    ∨ (Text.trimChars text.toList).map Char.toLower = t.code.toList.map Char.toLower := by
  have hname := List.find?_some h
  rw [Text.sameLetters, decide_eq_true_iff, String.toList_ofList, withoutCodeStart] at hname
  split at hname
  case isTrue hstart =>
    right
    rw [code, String.toList_append, List.map_append, ← hstart, hname, ← List.map_append,
      List.take_append_drop]
  case isFalse =>
    left
    exact hname.symm

theorem Crs.ofText_of_tiled {text : String} {t : Tcrs} (h : Tcrs.ofText? text = some t) :
    ofText text = .error (.unsupported text) := by
  have hbare : ofBareCode? (String.ofList (bareCode (Text.upperChars
      (Text.trimChars text.toList)))) = none := by
    rcases Tcrs.eq_of_ofText? h with hname | hcode
    · rw [Text.upperChars_eq_of_toLower hname]
      cases t <;> decide +kernel
    · rw [Text.upperChars_eq_of_toLower hcode]
      cases t <;> decide +kernel
  rw [ofText, hbare]

theorem Tcrs.exists_ofCrs? (crs : Crs) : ∃ t, ofCrs? crs = some t := by
  cases crs
  case crs84 | epsg4326 => exact ⟨.wgs84, rfl⟩
  case epsg3857 => exact ⟨.osmTile, rfl⟩
  case epsg5936 => exact ⟨.apsTile, rfl⟩
  case epsg3978 => exact ⟨.cbmTile, rfl⟩

/-- A code names a tiled system, whose box has the easting first, or a reference system, whose tiled
system it stands for. -/
theorem resolveCrs_eq_ok_iff {text version : String} {t : Tcrs} {order : AxisOrder} :
    resolveCrs text version = .ok (t, order) ↔ (Tcrs.ofText? text = some t ∧ order = .xy)
      ∨ ∃ crs, Crs.ofText text = .ok crs ∧ Tcrs.ofCrs? crs = some t
        ∧ order = crs.axisOrderIn version := by
  unfold resolveCrs
  cases hname : Tcrs.ofText? text with
  | some named =>
    have hnone (crs : Crs) : Crs.ofText text ≠ .ok crs := by
      rw [Crs.ofText_of_tiled hname]
      simp
    simp [hnone, eq_comm]
  | none =>
    cases hcrs : Crs.ofText text with
    | error fault => simp
    | ok crs =>
      obtain ⟨stands, hstands⟩ := Tcrs.exists_ofCrs? crs
      simp [hstands, eq_comm]

theorem resolveCrs_code (t : Tcrs) (version : String) :
    resolveCrs t.code version = .ok (t, .xy) :=
  resolveCrs_eq_ok_iff.mpr (.inl ⟨ofText?_code t, rfl⟩)

theorem exists_resolveCrs_iff {text version : String} :
    (∃ resolved, resolveCrs text version = .ok resolved)
      ↔ (∃ t, Tcrs.ofText? text = some t) ∨ ∃ crs, Crs.ofText text = .ok crs := by
  constructor
  · rintro ⟨⟨t, order⟩, h⟩
    rcases resolveCrs_eq_ok_iff.mp h with ⟨hname, _⟩ | ⟨crs, hcrs, _⟩
    · exact .inl ⟨t, hname⟩
    · exact .inr ⟨crs, hcrs⟩
  · rintro (⟨t, hname⟩ | ⟨crs, hcrs⟩)
    · exact ⟨(t, .xy), resolveCrs_eq_ok_iff.mpr (.inl ⟨hname, rfl⟩)⟩
    · obtain ⟨t, ht⟩ := Tcrs.exists_ofCrs? crs
      exact ⟨(t, _), resolveCrs_eq_ok_iff.mpr (.inr ⟨crs, hcrs, ht, rfl⟩)⟩

theorem Crs.eq_of_ofText_error {text : String} {fault : CrsFault}
    (h : ofText text = .error fault) : fault = .unsupported text := by
  unfold ofText at h
  split at h
  · cases h
  · cases h
    rfl

theorem eq_of_resolveCrs_error {text version : String} {e : ServiceError}
    (h : resolveCrs text version = .error e) : e = .unsupportedCrs text := by
  unfold resolveCrs at h
  split at h
  · cases h
  · split at h
    case h_1 fault hfault =>
      cases h
      rw [Crs.eq_of_ofText_error hfault]
      rfl
    case h_2 =>
      split at h
      · cases h
      · cases h
        rfl

theorem Crs.axisOrderIn_eq_latLon_iff {crs : Crs} {version : String} :
    crs.axisOrderIn version = .latLon
      ↔ crs = .epsg4326 ∧ "1.3".toList.isPrefixOf version.toList = true := by
  unfold axisOrderIn
  split
  case isTrue hversion =>
    rw [and_iff_left hversion]
    cases crs <;> simp [axisOrder]
  case isFalse hversion => exact iff_of_false (by simp) fun h => hversion h.2

/-- The latitude comes first for EPSG:4326 in version 1.3, and for nothing else. -/
theorem resolveCrs_latLon_iff {text version : String} {t : Tcrs} {order : AxisOrder}
    (h : resolveCrs text version = .ok (t, order)) :
    order = .latLon ↔ Crs.ofText text = .ok .epsg4326
      ∧ "1.3".toList.isPrefixOf version.toList = true := by
  rcases resolveCrs_eq_ok_iff.mp h with ⟨hname, rfl⟩ | ⟨crs, hcrs, _, rfl⟩
  · rw [Crs.ofText_of_tiled hname]
    simp
  · rw [Crs.axisOrderIn_eq_latLon_iff, hcrs, Except.ok.injEq]

end MapMarkup
