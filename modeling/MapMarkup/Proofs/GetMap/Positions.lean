import MapMarkup.Proofs.GetMap.Canonical
import MapMarkup.Proofs.GetMap.Checked

/-!
# Styles by position

A request lists its layers and its styles with commas. Blank tokens among the layers are dropped
before the styles are dealt out, so a style goes to the layer whose place it has among the names,
not among the tokens: a layer with blank tokens before it gets the style of a place that many tokens
earlier (`Parameters.toRequest_pairs`). Where no blank token stands before a name, the two places
are the same.
-/

namespace MapMarkup

/-- The style token at a place of a list of styles; the empty one where the list has no such place.
-/
def styleAt (list : Option String) (i : Nat) : String :=
  match list with
  | none => ""
  | some s => ((Text.fields ',' s).map Text.trim).getD i ""

/-- The tokens between the commas of a list of layers, blank ones included. -/
def layerTokens (list : String) : List String :=
  (Text.fields ',' list).map Text.trim

/-- The names in a list of layers, each with its place among the tokens. -/
def namesAt (list : String) : List (String × Nat) :=
  (layerTokens list).zipIdx.filter fun t => t.1 ≠ ""

def blanksBefore (list : String) (k : Nat) : Nat :=
  ((layerTokens list).take k).countP (· = "")

/-! ### Places -/

/-- What is kept of a row stands as many places earlier as elements before it were dropped. -/
theorem place_of_filter_zipIdx {α : Type} (kept : α → Bool) {xs : List α} {n j k : Nat} {x : α}
    (h : ((xs.zipIdx n).filter fun t => kept t.1)[j]? = some (x, k)) :
    n ≤ k ∧ j + (xs.take (k - n)).countP (fun y => !kept y) = k - n := by
  induction xs generalizing n j with
  | nil => cases h
  | cons first rest ih =>
    have htake (hk : n + 1 ≤ k) :
        (first :: rest).take (k - n) = first :: rest.take (k - (n + 1)) := by
      rw [show k - n = (k - (n + 1)) + 1 by omega, List.take_succ_cons]
    rw [List.zipIdx_cons] at h
    cases hfirst : kept first with
    | true =>
      rw [List.filter_cons_of_pos (by exact hfirst)] at h
      cases j with
      | zero =>
        cases h
        simp
      | succ j =>
        obtain ⟨hk, hplace⟩ := ih h
        rw [htake hk, List.countP_cons_of_neg (by simp [hfirst])]
        omega
    | false =>
      rw [List.filter_cons_of_neg (by simp [hfirst])] at h
      obtain ⟨hk, hplace⟩ := ih h
      rw [htake hk, List.countP_cons_of_pos (by simp [hfirst])]
      omega

private theorem place_of_namesAt {list token : String} {j k : Nat}
    (h : (namesAt list)[j]? = some (token, k)) : j = k - blanksBefore list k := by
  have hblank : blanksBefore list k
      = ((layerTokens list).take k).countP fun token => !decide (token ≠ "") :=
    List.countP_congr fun token _ => by simp
  have hplace := (place_of_filter_zipIdx (fun token => decide (token ≠ "")) h).2
  rw [Nat.sub_zero, ← hblank] at hplace
  omega

/-! ### Layers and styles -/

private theorem splitLayers_eq (list : String) :
    splitLayers list = (namesAt list).map Prod.fst := by
  have htokens : splitLayers list
      = ((layerTokens list).zipIdx.map Prod.fst).filter (· ≠ "") := by
    rw [List.zipIdx_map_fst]
    rfl
  rw [htokens, List.filter_map]
  rfl

private theorem distributeStyles_eq (list : Option String) (count : Nat) :
    distributeStyles list count = (List.range count).map (styleAt list) := by
  unfold distributeStyles
  dsimp only
  apply List.map_congr_left
  intro i _
  cases list with
  | none => rfl
  | some s =>
    dsimp only [styleAt]
    split
    case isTrue hempty =>
      rw [hempty]
      cases i <;> rfl
    case isFalse => rfl

private theorem zip_distributeStyles (layers : String) (styles : Option String) :
    (splitLayers layers).zip (distributeStyles styles (splitLayers layers).length)
      = (namesAt layers).map fun t => (t.1, styleAt styles (t.2 - blanksBefore layers t.2)) := by
  rw [splitLayers_eq, distributeStyles_eq]
  apply List.ext_getElem
  · simp
  · intro j hj hj'
    rw [List.length_map] at hj'
    have hplace : j = (namesAt layers)[j].2 - blanksBefore layers (namesAt layers)[j].2 :=
      place_of_namesAt (List.getElem?_eq_getElem hj')
    rw [List.getElem_zip, List.getElem_map, List.getElem_map, List.getElem_map,
      List.getElem_range, ← hplace]

namespace Parameters

/-- **Which style a layer gets.** A layer gets the style that stands in the list of styles as many
places before the layer's own as the list of layers has blank tokens before it. -/
theorem toRequest_pairs {p : Parameters} {r : Request} (h : p.toRequest = .ok r) :
    ∃ list, p.layers = some list
      ∧ r.layers.zip r.styles
        = (namesAt list).map (fun t => (t.1, styleAt p.styles (t.2 - blanksBefore list t.2)))
      ∧ (r.layers.zip r.styles = (namesAt list).map (fun t => (t.1, styleAt p.styles t.2))
        ↔ ∀ t ∈ namesAt list,
          styleAt p.styles (t.2 - blanksBefore list t.2) = styleAt p.styles t.2)
      ∧ ((∀ t ∈ namesAt list, blanksBefore list t.2 = 0) →
        r.layers.zip r.styles = (namesAt list).map fun t => (t.1, styleAt p.styles t.2)) := by
  obtain ⟨_, _, _, hlayers, _, _, _, _, hstyles, _⟩ := toRequest_eq_ok_iff.mp h
  obtain ⟨list, hlist, hsplit, _⟩ := readLayers_eq_ok_iff.mp hlayers
  have hpairs : r.layers.zip r.styles
      = (namesAt list).map fun t => (t.1, styleAt p.styles (t.2 - blanksBefore list t.2)) := by
    rw [hstyles, hsplit, zip_distributeStyles]
  refine ⟨list, hlist, hpairs, ?_, fun hblanks => ?_⟩
  · rw [hpairs, List.map_inj_left]
    exact forall₂_congr fun t _ => by rw [Prod.mk.injEq, and_iff_right rfl]
  · rw [hpairs]
    apply List.map_congr_left
    intro t ht
    rw [hblanks t ht, Nat.sub_zero]

theorem toRequest_pairs_lakes : ∃ (p : Parameters) (r : Request),
    p.layers = some "Lakes, a:Roads ,," ∧ p.styles = some ", dashed,x" ∧ p.toRequest = .ok r
    ∧ r.layers.zip r.styles = [("Lakes", ""), ("a:Roads", "dashed")] := by
  let p : Parameters :=
    { layers := some "Lakes, a:Roads ,,", styles := some ", dashed,x", crs := some "OSMTILE",
      width := some "10", height := some "20" }
  have hr : p.toRequest = .ok
      { Request.plain ["Lakes", "a:Roads"] .osmTile 10 20 with styles := ["", "dashed"] } := by
    decide +kernel
  obtain ⟨list, hlist, _, _, hplain⟩ := toRequest_pairs hr
  cases hlist
  exact ⟨p, _, rfl, rfl, hr, (hplain (by decide +kernel)).trans (by decide +kernel)⟩

/-- Behind a blank token a layer is drawn in its default style, although a style stands at its
place. -/
theorem toRequest_pairs_shifted : ∃ (query list : String) (p : Parameters) (r : Request),
    read query = .ok p ∧ p.layers = some list ∧ p.toRequest = .ok r
    ∧ r.layers.zip r.styles = [("Polygons", "polygon"), ("Lakes", "")]
    ∧ (namesAt list).map (fun t => (t.1, styleAt p.styles t.2))
      = [("Polygons", "polygon"), ("Lakes", "blue")] := by
  let p : Parameters :=
    { layers := some "Polygons,,Lakes", styles := some "polygon,,blue", crs := some "OSMTILE",
      width := some "9", height := some "9" }
  have hread : read "LAYERS=Polygons,,Lakes&STYLES=polygon,,blue&CRS=OSMTILE&WIDTH=9&HEIGHT=9"
      = .ok p := by
    rw [read_eq]
    decide +kernel
  refine ⟨_, _, p, ?_, hread, rfl, ?_⟩
  · exact { Request.plain ["Polygons", "Lakes"] .osmTile 9 9 with styles := ["polygon", ""] }
  · decide +kernel

end Parameters

end MapMarkup
