import MapMarkup.GetMap
import MapMarkup.Proofs.Box.Order
import MapMarkup.Proofs.Outcome
import MapMarkup.Proofs.Text.Fields

/-!
# What a checked request satisfies

Whatever a client sends, a request that is read from it has layers, a style token for each of them,
and sizes within bounds (`Parameters.isChecked_of_toRequest`); its box is finite and in order
(`Parameters.isOrdered_of_toRequest`). When each part is read, and as what, is said once for each
part (`Parameters.readLayers_eq_ok_iff` and those after it). Layer names and style tokens come
from comma-separated lists, so they hold no comma and have no blanks around them; such tokens
survive being written as a list and read again (`fields_join`).
-/

namespace MapMarkup

/-! ### Tokens of comma-separated lists -/

/-- A text that can stand in a comma-separated list. -/
structure IsToken (s : String) : Prop where
  trimmed : Text.Trimmed s.toList
  comma_notMem : ',' ∉ s.toList

private theorem isToken_empty : IsToken "" :=
  ⟨⟨by simp, by simp⟩, by simp⟩

theorem isToken_of_mem_fields {list token : String}
    (h : token ∈ (Text.fields ',' list).map Text.trim) : IsToken token := by
  rw [Text.fields, List.map_map] at h
  obtain ⟨field, hfield, rfl⟩ := List.mem_map.mp h
  have htoken : ((Text.trim ∘ String.ofList) field).toList = Text.trimChars field := by
    rw [Function.comp_apply, Text.toList_trim, String.toList_ofList]
  constructor
  · rw [htoken]
    exact Text.trimmed_trimChars field
  · rw [htoken]
    intro hcomma
    exact Text.notMem_of_mem_splitFields hfield (Text.mem_of_mem_trimChars hcomma)

private theorem trim_of_isToken {s : String} (h : IsToken s) : Text.trim s = s := by
  rw [Text.trim, h.trimmed.trimChars_eq, String.ofList_toList]

theorem splitFields_join {tokens : List String} (hne : tokens ≠ [])
    (h : ∀ s ∈ tokens, IsToken s) :
    Text.splitFields ',' (Text.join ',' tokens).toList = tokens.map String.toList := by
  rw [Text.toList_join]
  apply Text.splitFields_joinFields
  · simpa using hne
  · intro part hpart
    obtain ⟨s, hs, rfl⟩ := List.mem_map.mp hpart
    exact (h s hs).comma_notMem

theorem fields_join {tokens : List String} (hne : tokens ≠ []) (h : ∀ s ∈ tokens, IsToken s) :
    (Text.fields ',' (Text.join ',' tokens)).map Text.trim = tokens := by
  rw [Text.fields, splitFields_join hne h, List.map_map, List.map_map]
  conv_rhs => rw [← List.map_id tokens]
  apply List.map_congr_left
  intro s hs
  rw [Function.comp_apply, Function.comp_apply, String.ofList_toList, trim_of_isToken (h s hs)]
  rfl

/-! ### Layers -/

private theorem isToken_of_mem_splitLayers {list token : String} (h : token ∈ splitLayers list) :
    IsToken token ∧ token ≠ "" := by
  rw [splitLayers, Text.tokens, List.mem_filter] at h
  exact ⟨isToken_of_mem_fields h.1, of_decide_eq_true h.2⟩

theorem splitLayers_join {layers : List String} (hne : layers ≠ [])
    (h : ∀ l ∈ layers, IsToken l ∧ l ≠ "") : splitLayers (Text.join ',' layers) = layers := by
  rw [splitLayers, Text.tokens, fields_join hne fun l hl => (h l hl).1, List.filter_eq_self]
  exact fun l hl => decide_eq_true (h l hl).2

/-! ### Styles -/

private theorem length_distributeStyles (list : Option String) (count : Nat) :
    (distributeStyles list count).length = count := by
  unfold distributeStyles
  rw [List.length_map, List.length_range]

private theorem isToken_getD {tokens : List String} (h : ∀ s ∈ tokens, IsToken s) (i : Nat) :
    IsToken (tokens.getD i "") := by
  rw [List.getD_eq_getElem?_getD]
  cases hget : tokens[i]? with
  | none => exact isToken_empty
  | some token => exact h token (List.mem_of_getElem? hget)

private theorem isToken_of_mem_distributeStyles {list : Option String} {count : Nat}
    {token : String} (h : token ∈ distributeStyles list count) : IsToken token := by
  obtain ⟨i, _, rfl⟩ := List.mem_map.mp h
  refine isToken_getD (fun s hs => ?_) i
  cases list with
  | none => exact absurd hs List.not_mem_nil
  | some styles =>
    dsimp only at hs
    split at hs
    · exact absurd hs List.not_mem_nil
    · exact isToken_of_mem_fields hs

theorem map_range_getD (styles : List String) :
    ((List.range styles.length).map fun i => styles.getD i "") = styles := by
  apply List.ext_getElem
  · rw [List.length_map, List.length_range]
  · intro i hi hi'
    rw [List.getElem_map, List.getElem_range, List.getD_eq_getElem?_getD,
      List.getElem?_eq_getElem hi', Option.getD_some]

theorem join_eq_empty {tokens : List String} (hne : tokens ≠ []) (h : ∀ s ∈ tokens, IsToken s)
    (hempty : Text.join ',' tokens = "") : tokens = [""] := by
  have hsplit := splitFields_join hne h
  rw [hempty] at hsplit
  have hmap : [""].map String.toList = tokens.map String.toList := hsplit
  exact (List.map_injective_iff.mpr (fun _ _ => String.toList_injective) hmap).symm

/-! ### Checked requests -/

/-- What reading a request makes sure of. -/
structure Request.IsChecked (r : Request) : Prop where
  layers_ne_nil : r.layers ≠ []
  layers_isToken : ∀ l ∈ r.layers, IsToken l ∧ l ≠ ""
  styles_length : r.styles.length = r.layers.length
  styles_isToken : ∀ s ∈ r.styles, IsToken s
  width_bounds : 0 < r.width ∧ r.width ≤ Parameters.greatestSize
  height_bounds : 0 < r.height ∧ r.height ≤ Parameters.greatestSize
  language_not_blank : ∀ l ∈ r.language, Text.allBlank l = false

namespace Parameters

theorem toRequest_eq_ok_iff {p : Parameters} {r : Request} :
    p.toRequest = .ok r ↔ p.checkService = .ok () ∧ p.checkRequest = .ok ()
      ∧ r.version = p.version.getD "1.3.0" ∧ p.readLayers = .ok r.layers
      ∧ (∃ order, p.readCrs r.version = .ok (r.tcrs, order) ∧ p.readBox order = .ok r.bbox)
      ∧ readSize "WIDTH" p.width = .ok r.width ∧ readSize "HEIGHT" p.height = .ok r.height
      ∧ p.readOutput = .ok r.output ∧ r.styles = distributeStyles p.styles r.layers.length
      ∧ r.imageFormat = p.imageFormat?
      ∧ r.language = p.language.filter (fun l => !Text.allBlank l) ∧ r.workspace = none := by
  unfold toRequest
  constructor
  · intro h
    obtain ⟨_, hservice, h⟩ := bind_eq_ok_iff.mp h
    obtain ⟨_, hrequest, h⟩ := bind_eq_ok_iff.mp h
    obtain ⟨layers, hlayers, h⟩ := bind_eq_ok_iff.mp h
    obtain ⟨⟨tcrs, order⟩, hcrs, h⟩ := bind_eq_ok_iff.mp h
    obtain ⟨bbox, hbox, h⟩ := bind_eq_ok_iff.mp h
    obtain ⟨width, hwidth, h⟩ := bind_eq_ok_iff.mp h
    obtain ⟨height, hheight, h⟩ := bind_eq_ok_iff.mp h
    obtain ⟨output, houtput, h⟩ := bind_eq_ok_iff.mp h
    cases h
    exact ⟨hservice, hrequest, rfl, hlayers, ⟨order, hcrs, hbox⟩, hwidth, hheight, houtput, rfl,
      rfl, rfl, rfl⟩
  · rintro ⟨hservice, hrequest, hversion, hlayers, ⟨order, hcrs, hbox⟩, hwidth, hheight, houtput,
      hstyles, hformat, hlanguage, hworkspace⟩
    rw [hversion] at hcrs
    refine bind_eq_ok_iff.mpr ⟨(), hservice, ?_⟩
    refine bind_eq_ok_iff.mpr ⟨(), hrequest, ?_⟩
    refine bind_eq_ok_iff.mpr ⟨r.layers, hlayers, ?_⟩
    refine bind_eq_ok_iff.mpr ⟨(r.tcrs, order), hcrs, ?_⟩
    refine bind_eq_ok_iff.mpr ⟨r.bbox, hbox, ?_⟩
    refine bind_eq_ok_iff.mpr ⟨r.width, hwidth, ?_⟩
    refine bind_eq_ok_iff.mpr ⟨r.height, hheight, ?_⟩
    refine bind_eq_ok_iff.mpr ⟨r.output, houtput, ?_⟩
    rw [← hversion, ← hstyles, ← hformat, ← hlanguage, ← hworkspace]
    rfl

theorem readLayers_eq_ok_iff {p : Parameters} {layers : List String} :
    p.readLayers = .ok layers
      ↔ ∃ list, p.layers = some list ∧ layers = splitLayers list ∧ layers ≠ [] := by
  unfold readLayers
  cases p.layers with
  | none => simp
  | some list =>
    dsimp only
    cases hsplit : splitLayers list with
    | nil => simp [hsplit]
    | cons first rest =>
      rw [Except.ok.injEq]
      constructor
      · rintro rfl
        exact ⟨list, rfl, hsplit.symm, List.cons_ne_nil first rest⟩
      · rintro ⟨_, hlist, rfl, _⟩
        cases hlist
        exact hsplit.symm

private theorem readLayers_eq_ok {p : Parameters} {layers : List String}
    (h : p.readLayers = .ok layers) :
    layers ≠ [] ∧ ∀ l ∈ layers, IsToken l ∧ l ≠ "" := by
  obtain ⟨list, _, rfl, hne⟩ := readLayers_eq_ok_iff.mp h
  exact ⟨hne, fun l hl => isToken_of_mem_splitLayers hl⟩

theorem readSize_eq_ok_iff {name : String} {value : Option String} {n : Nat} :
    readSize name value = .ok n ↔ ∃ text, value = some text
      ∧ Decimal.readNat (Text.trimChars text.toList) = some n ∧ 0 < n ∧ n ≤ greatestSize := by
  unfold readSize
  cases value with
  | none => simp
  | some text =>
    dsimp only
    cases hread : Decimal.readNat (Text.trimChars text.toList) with
    | none => simp [hread]
    | some m =>
      dsimp only
      split
      case isTrue hbounds =>
        rw [Except.ok.injEq]
        constructor
        · rintro rfl
          exact ⟨text, rfl, hread, hbounds⟩
        · rintro ⟨_, htext, hread', _⟩
          cases htext
          exact Option.some.inj (hread.symm.trans hread')
      case isFalse hbounds =>
        constructor
        · intro h
          cases h
        · rintro ⟨_, htext, hread', hbounds'⟩
          cases htext
          rw [hread, Option.some.injEq] at hread'
          subst hread'
          exact absurd hbounds' hbounds

theorem readSize_eq_ok {name : String} {value : Option String} {n : Nat}
    (h : readSize name value = .ok n) : 0 < n ∧ n ≤ greatestSize := by
  obtain ⟨_, _, _, hbounds⟩ := readSize_eq_ok_iff.mp h
  exact hbounds

theorem readCrs_eq_ok_iff {p : Parameters} {version : String} {resolved : Tcrs × AxisOrder} :
    p.readCrs version = .ok resolved
      ↔ ∃ code, p.crsIn version = some code ∧ resolveCrs code version = .ok resolved := by
  unfold readCrs
  cases p.crsIn version with
  | none => simp
  | some code => simp

theorem readBox_eq_ok_iff {p : Parameters} {order : AxisOrder} {bbox : Option Box} :
    p.readBox order = .ok bbox ↔ (p.bbox = none ∧ bbox = none)
      ∨ ∃ text box, p.bbox = some text ∧ Box.ofParam text order = .ok box ∧ bbox = some box := by
  unfold readBox
  cases p.bbox with
  | none => simp [eq_comm]
  | some text =>
    cases hread : Box.ofParam text order with
    | error fault => simp [hread]
    | ok box => simp [hread, eq_comm]

theorem readOutput_eq_ok_iff {p : Parameters} {output : Output} :
    p.readOutput = .ok output ↔ (p.format = none ∧ output = .document)
      ∨ ∃ text, p.format = some text ∧ Output.ofMediaType? text = some output := by
  unfold readOutput
  cases p.format with
  | none => simp [eq_comm]
  | some text =>
    cases htype : Output.ofMediaType? text with
    | none => simp [htype]
    | some output' => simp [htype]

theorem readBox_of_toRequest {p : Parameters} {r : Request} (h : p.toRequest = .ok r) :
    ∃ order, p.readCrs (p.version.getD "1.3.0") = .ok (r.tcrs, order)
      ∧ p.readBox order = .ok r.bbox := by
  obtain ⟨_, _, hversion, _, ⟨order, hcrs, hbox⟩, _⟩ := toRequest_eq_ok_iff.mp h
  rw [hversion] at hcrs
  exact ⟨order, hcrs, hbox⟩

theorem isOrdered_of_toRequest {p : Parameters} {r : Request} {b : Box} (h : p.toRequest = .ok r)
    (hbox : r.bbox = some b) : b.isFinite = true ∧ b.IsOrdered := by
  obtain ⟨order, _, hread⟩ := readBox_of_toRequest h
  rw [hbox] at hread
  rcases readBox_eq_ok_iff.mp hread with ⟨_, hnone⟩ | ⟨text, box, _, hparam, hsome⟩
  · cases hnone
  · cases hsome
    exact Box.isOrdered_of_ofParam hparam

/-- A request that is read is checked. -/
theorem isChecked_of_toRequest {p : Parameters} {r : Request} (h : p.toRequest = .ok r) :
    r.IsChecked := by
  obtain ⟨_, _, _, hlayers, _, hwidth, hheight, _, hstyles, _, hlanguage, _⟩ :=
    toRequest_eq_ok_iff.mp h
  obtain ⟨hne, htokens⟩ := readLayers_eq_ok hlayers
  refine ⟨hne, htokens, ?_, ?_, readSize_eq_ok hwidth, readSize_eq_ok hheight, ?_⟩
  · rw [hstyles, length_distributeStyles]
  · intro s hs
    rw [hstyles] at hs
    exact isToken_of_mem_distributeStyles hs
  · intro l hl
    rw [hlanguage, Option.mem_def, Option.filter_eq_some_iff] at hl
    simpa using hl.2

end Parameters

end MapMarkup
