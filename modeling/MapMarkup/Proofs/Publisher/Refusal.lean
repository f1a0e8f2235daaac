import MapMarkup.Proofs.Extent.Composition

/-!
# Refused requests

When a publisher does not answer a request, and with which error. The catalog alone decides
(`Catalog.Refuses`). All layers are looked up before any style is, so a layer that is not there goes
before a style that is not there, wherever the two stand in the request. Bounds play no part: a box
that cannot be taken to another reference system never stops an answer.
-/

namespace MapMarkup

/-! ### Styles -/

theorem RequestedLayer.hasStyle_of_zoom {r : RequestedLayer} {t : Tcrs} {z : ZoomRange}
    (h : r.zoom t = .ok z) : r.HasStyle := by
  unfold zoom at h
  by_cases hempty : r.style = ""
  · exact .inl hempty
  · cases hstyle : r.layer.style? r.style with
    | none =>
        rw [Layer.effectiveStyle, if_neg hempty, hstyle] at h
        cases h
    | some s =>
        unfold Layer.style? at hstyle
        have hname := List.find?_some hstyle
        exact .inr ⟨s, List.mem_of_find?_eq_some hstyle, of_decide_eq_true hname⟩

private theorem RequestedLayer.zoom_eq_error_iff {r : RequestedLayer} {t : Tcrs}
    {e : ServiceError} :
    r.zoom t = .error e ↔ ¬ r.HasStyle ∧ e = .styleNotDefined r.layer.name r.style := by
  constructor
  · intro h
    refine ⟨fun hstyle => ?_, ?_⟩
    · obtain ⟨z, hz⟩ := hstyle.exists_zoom t
      rw [hz] at h
      cases h
    · unfold zoom Layer.effectiveStyle at h
      split at h
      · cases h
      case h_2 token htoken =>
        split at htoken
        · cases htoken
        · split at htoken
          · cases htoken
          · cases htoken
            cases h
            rfl
  · rintro ⟨hstyle, rfl⟩
    cases h : r.zoom t with
    | ok z => exact absurd (hasStyle_of_zoom h) hstyle
    | error e =>
        unfold zoom Layer.effectiveStyle at h
        have hempty : r.style ≠ "" := fun hempty => hstyle (.inl hempty)
        have hnone : r.layer.style? r.style = none := by
          rw [Layer.style?, List.find?_eq_none]
          exact fun s hs hname => hstyle (.inr ⟨s, hs, of_decide_eq_true hname⟩)
        rw [if_neg hempty, hnone] at h
        exact h.symm

/-! ### Composing -/

namespace ExtentContext

variable {c : ExtentContext} {layers : List RequestedLayer} {e : ServiceError}

private theorem withZooms_eq_error_iff {t : Tcrs} : withZooms t layers = .error e ↔
    ∃ (i : Nat) (l : RequestedLayer), layers[i]? = some l ∧ ¬ l.HasStyle
      ∧ (∀ j < i, ∀ l', layers[j]? = some l' → l'.HasStyle)
      ∧ e = .styleNotDefined l.layer.name l.style := by
  have hbefore (l : RequestedLayer) :
      (∃ p, (l.zoom t).map (fun z => (l, z)) = .ok p) ↔ l.HasStyle := by
    constructor
    · rintro ⟨p, hp⟩
      obtain ⟨z, hz, _⟩ := map_eq_ok_iff.mp hp
      exact RequestedLayer.hasStyle_of_zoom hz
    · intro h
      obtain ⟨z, hz⟩ := h.exists_zoom t
      exact ⟨(l, z), map_eq_ok_iff.mpr ⟨z, hz, rfl⟩⟩
  rw [withZooms, mapM_eq_error_iff]
  simp only [map_eq_error_iff, RequestedLayer.zoom_eq_error_iff, hbefore]
  constructor
  · rintro ⟨i, l, hl, ⟨hstyle, he⟩, hfirst⟩
    exact ⟨i, l, hl, hstyle, hfirst, he⟩
  · rintro ⟨i, l, hl, hstyle, hfirst, he⟩
    exact ⟨i, l, hl, ⟨hstyle, he⟩, hfirst⟩

private theorem compose_eq_error_iff : c.compose layers = .error e ↔
    withZooms c.tcrs layers = .error e ∨ layers = [] ∧ e = .missingParameter "LAYERS" := by
  rw [compose, bind_eq_error_iff]
  refine or_congr_right ?_
  constructor
  · rintro ⟨zoomed, hzoomed, h⟩
    have hlength := (withZooms_eq_ok_iff.mp hzoomed).length_eq
    cases zoomed with
    | nil =>
        cases h
        exact ⟨List.eq_nil_of_length_eq_zero hlength, rfl⟩
    | cons p rest =>
        cases rest with
        | nil => cases h
        | cons q rest =>
            dsimp only at h
            split at h <;> cases h
  · rintro ⟨rfl, rfl⟩
    exact ⟨[], rfl, rfl⟩

end ExtentContext

/-! ### Positions -/

namespace Catalog

variable {c : Catalog} {r : Request}

def layerAt? (c : Catalog) (r : Request) (i : Nat) : Option RequestedLayer :=
  r.layers[i]?.bind fun token =>
    (c.find? token r.workspace).map fun l => ⟨token, l, r.styles.getD i ""⟩

theorem layerAt?_eq {i : Nat} {token : String} (h : r.layers[i]? = some token) :
    c.layerAt? r i = (c.find? token r.workspace).map fun l => ⟨token, l, r.styles.getD i ""⟩ := by
  rw [layerAt?, h]
  rfl

/-- A request is refused for its first layer that is not there, or else for its first style that the
layer does not have, or else because it names no layers. -/
inductive Refuses (c : Catalog) (r : Request) : ServiceError → Prop
  | layer {i : Nat} {token : String} (htoken : r.layers[i]? = some token)
      (hmissing : c.layerAt? r i = none) (hfirst : ∀ j < i, (c.layerAt? r j).isSome) :
      Refuses c r (.layerNotDefined token)
  | style {i : Nat} {l : RequestedLayer}
      (hfound : ∀ j < r.layers.length, (c.layerAt? r j).isSome) (hl : c.layerAt? r i = some l)
      (hmissing : ¬ l.HasStyle) (hfirst : ∀ j < i, ∀ l', c.layerAt? r j = some l' → l'.HasStyle) :
      Refuses c r (.styleNotDefined l.layer.name l.style)
  | empty (h : r.layers = []) : Refuses c r (.missingParameter "LAYERS")

end Catalog

/-! ### Resolving -/

namespace Publisher

variable {p : Publisher} {r : Request} {layers : List RequestedLayer} {e : ServiceError}

theorem resolveLayer_eq_ok_iff {i : Nat} {token : String} (h : r.layers[i]? = some token)
    {l : RequestedLayer} :
    p.resolveLayer r token (r.styles.getD i "") = .ok l ↔ p.catalog.layerAt? r i = some l := by
  rw [Catalog.layerAt?_eq h, resolveLayer]
  cases p.catalog.find? token r.workspace with
  | none => simp
  | some found => simp

theorem resolveLayer_eq_error_iff {i : Nat} {token : String} (h : r.layers[i]? = some token) :
    p.resolveLayer r token (r.styles.getD i "") = .error e
      ↔ p.catalog.layerAt? r i = none ∧ e = .layerNotDefined token := by
  rw [Catalog.layerAt?_eq h, resolveLayer]
  cases p.catalog.find? token r.workspace with
  | none => simp [eq_comm]
  | some found => simp

theorem getElem?_zipIdx {i k : Nat} {token : String} :
    r.layers.zipIdx[i]? = some (token, k) ↔ r.layers[i]? = some token ∧ i = k := by
  rw [List.getElem?_zipIdx, Option.map_eq_some_iff]
  constructor
  · rintro ⟨token', htoken, hpair⟩
    cases hpair
    exact ⟨htoken, (Nat.zero_add i).symm⟩
  · rintro ⟨htoken, rfl⟩
    exact ⟨token, htoken, by rw [Nat.zero_add]⟩

theorem getElem?_of_resolveLayers (h : p.resolveLayers r = .ok layers) (i : Nat) :
    layers[i]? = p.catalog.layerAt? r i := by
  have hforall := mapM_eq_ok_iff.mp h
  have hlength := hforall.length_eq
  rw [List.length_zipIdx] at hlength
  by_cases hi : i < r.layers.length
  · have hzip : i < r.layers.zipIdx.length := by rwa [List.length_zipIdx]
    have htoken : r.layers[i]? = some r.layers[i] := List.getElem?_eq_getElem hi
    have hstep := hforall.get hzip (hlength ▸ hi)
    rw [List.get_eq_getElem, List.getElem_zipIdx, Nat.zero_add] at hstep
    rw [List.getElem?_eq_getElem (hlength ▸ hi)]
    exact ((resolveLayer_eq_ok_iff htoken).mp hstep).symm
  · have hnone : r.layers[i]? = none := List.getElem?_eq_none (Nat.le_of_not_lt hi)
    rw [List.getElem?_eq_none (by omega), Catalog.layerAt?, hnone]
    rfl

theorem resolveLayers_eq_error_iff : p.resolveLayers r = .error e ↔
    ∃ (i : Nat) (token : String), r.layers[i]? = some token ∧ p.catalog.layerAt? r i = none
      ∧ (∀ j < i, (p.catalog.layerAt? r j).isSome) ∧ e = .layerNotDefined token := by
  rw [resolveLayers, mapM_eq_error_iff]
  constructor
  · rintro ⟨i, ⟨token, k⟩, hx, herror, hbefore⟩
    obtain ⟨htoken, rfl⟩ := getElem?_zipIdx.mp hx
    obtain ⟨hnone, he⟩ := (resolveLayer_eq_error_iff htoken).mp herror
    refine ⟨i, token, htoken, hnone, fun j hj => ?_, he⟩
    have hlength := (List.getElem?_eq_some_iff.mp htoken).1
    have hj' : r.layers[j]? = some r.layers[j] := List.getElem?_eq_getElem (hj.trans hlength)
    obtain ⟨l, hl⟩ := hbefore j hj _ (getElem?_zipIdx.mpr ⟨hj', rfl⟩)
    rw [(resolveLayer_eq_ok_iff hj').mp hl]
    rfl
  · rintro ⟨i, token, htoken, hnone, hbefore, he⟩
    refine ⟨i, (token, i), getElem?_zipIdx.mpr ⟨htoken, rfl⟩,
      (resolveLayer_eq_error_iff htoken).mpr ⟨hnone, he⟩, ?_⟩
    rintro j hj ⟨token', k⟩ hy
    obtain ⟨htoken', rfl⟩ := getElem?_zipIdx.mp hy
    obtain ⟨l, hl⟩ := Option.isSome_iff_exists.mp (hbefore j hj)
    exact ⟨l, (resolveLayer_eq_ok_iff htoken').mpr hl⟩

/-! ### Refusing -/

theorem isSome_layerAt?_of_resolveLayers (h : p.resolveLayers r = .ok layers) {i : Nat}
    (hi : i < r.layers.length) : (p.catalog.layerAt? r i).isSome := by
  have hlength : layers.length = r.layers.length := by
    rw [← tokens_of_resolveLayers h, List.length_map]
  rw [← getElem?_of_resolveLayers h, List.getElem?_eq_getElem (hlength ▸ hi)]
  rfl

theorem exists_resolveLayers (h : ∀ i < r.layers.length, (p.catalog.layerAt? r i).isSome) :
    ∃ layers, p.resolveLayers r = .ok layers := by
  rw [exists_ok_iff]
  intro e he
  obtain ⟨i, token, htoken, hnone, _⟩ := resolveLayers_eq_error_iff.mp he
  have hsome := h i (List.getElem?_eq_some_iff.mp htoken).1
  rw [hnone] at hsome
  cases hsome

private theorem assemble_eq_error_iff (h : p.resolveLayers r = .ok layers) :
    p.assemble r layers = .error e ↔
      (∃ (i : Nat) (l : RequestedLayer), p.catalog.layerAt? r i = some l ∧ ¬ l.HasStyle
        ∧ (∀ j < i, ∀ l', p.catalog.layerAt? r j = some l' → l'.HasStyle)
        ∧ e = .styleNotDefined l.layer.name l.style)
      ∨ r.layers = [] ∧ e = .missingParameter "LAYERS" := by
  have hempty : layers = [] ↔ r.layers = [] := by
    rw [← tokens_of_resolveLayers h, List.map_eq_nil_iff]
  rw [assemble, map_eq_error_iff, ExtentContext.compose_eq_error_iff,
    ExtentContext.withZooms_eq_error_iff, hempty]
  simp only [getElem?_of_resolveLayers h]

theorem document_eq_error_iff : p.document r = .error e ↔ p.catalog.Refuses r e := by
  rw [document, bind_eq_error_iff]
  constructor
  · rintro (h | ⟨layers, h, hassemble⟩)
    · obtain ⟨i, token, htoken, hnone, hfirst, rfl⟩ := resolveLayers_eq_error_iff.mp h
      exact .layer htoken hnone hfirst
    · rcases (assemble_eq_error_iff h).mp hassemble with
        ⟨i, l, hl, hstyle, hfirst, rfl⟩ | ⟨hnil, rfl⟩
      · exact .style (fun j hj => isSome_layerAt?_of_resolveLayers h hj) hl hstyle hfirst
      · exact .empty hnil
  · intro h
    cases h with
    | layer htoken hnone hfirst =>
        exact .inl (resolveLayers_eq_error_iff.mpr ⟨_, _, htoken, hnone, hfirst, rfl⟩)
    | style hfound hl hstyle hfirst =>
        obtain ⟨layers, hlayers⟩ := exists_resolveLayers hfound
        exact .inr ⟨layers, hlayers,
          (assemble_eq_error_iff hlayers).mpr (.inl ⟨_, _, hl, hstyle, hfirst, rfl⟩)⟩
    | empty hnil =>
        have hfound : ∀ i < r.layers.length, (p.catalog.layerAt? r i).isSome := by simp [hnil]
        obtain ⟨layers, hlayers⟩ := exists_resolveLayers hfound
        exact .inr ⟨layers, hlayers, (assemble_eq_error_iff hlayers).mpr (.inr ⟨hnil, rfl⟩)⟩

theorem preview_eq_error_iff_document : p.preview r = .error e ↔ p.document r = .error e := by
  rw [preview, document, bind_eq_error_iff, bind_eq_error_iff]
  refine or_congr_right (exists_congr fun layers => and_congr_right fun _ => ?_)
  rw [bind_eq_error_iff]
  constructor
  · rintro (h | ⟨d, _, h⟩)
    · exact h
    · cases h
  · exact .inl

/-- Nothing but a request without layers, a layer that is not there, and a style that is not there
stands between a request and its document. -/
theorem exists_document_iff : (∃ d, p.document r = .ok d) ↔
    r.layers ≠ [] ∧ ∀ i < r.layers.length, ∃ l, p.catalog.layerAt? r i = some l ∧ l.HasStyle := by
  constructor
  · rintro ⟨d, h⟩
    obtain ⟨layers, hlayers, hassemble⟩ := bind_eq_ok_iff.mp h
    have hnone : ∀ e, p.assemble r layers ≠ .error e := exists_ok_iff.mp ⟨d, hassemble⟩
    refine ⟨fun hnil => hnone _ ((assemble_eq_error_iff hlayers).mpr (.inr ⟨hnil, rfl⟩)), ?_⟩
    intro i
    induction i using Nat.strongRecOn with
    | ind i ih =>
        intro hi
        obtain ⟨l, hl⟩ := Option.isSome_iff_exists.mp (isSome_layerAt?_of_resolveLayers hlayers hi)
        refine ⟨l, hl, Classical.byContradiction fun hstyle => ?_⟩
        refine hnone _ ((assemble_eq_error_iff hlayers).mpr (.inl ⟨i, l, hl, hstyle, ?_, rfl⟩))
        intro j hj l' hl'
        obtain ⟨found, hfound, hstyle'⟩ := ih j hj (hj.trans hi)
        rw [hl'] at hfound
        cases hfound
        exact hstyle'
  · rintro ⟨hne, hall⟩
    have hsome : ∀ i < r.layers.length, (p.catalog.layerAt? r i).isSome := fun i hi => by
      obtain ⟨l, hl, _⟩ := hall i hi
      rw [hl]
      rfl
    obtain ⟨layers, hlayers⟩ := exists_resolveLayers hsome
    have htokens := tokens_of_resolveLayers hlayers
    refine exists_document hlayers ?_ fun l hl => ?_
    · rintro rfl
      exact hne htokens.symm
    · obtain ⟨i, hi⟩ := List.mem_iff_getElem?.mp hl
      have hlength : layers.length = r.layers.length := by rw [← htokens, List.length_map]
      obtain ⟨found, hfound, hstyle⟩ := hall i (hlength ▸ (List.getElem?_eq_some_iff.mp hi).1)
      rw [← getElem?_of_resolveLayers hlayers, hi] at hfound
      cases hfound
      exact hstyle

/-- **What stops an answer.** A request is refused for its first layer that is missing, or else for
its first missing style, or else for naming no layers, and for nothing else. -/
theorem document_refused_iff (p : Publisher) (r : Request) :
    ((∃ d, p.document r = .ok d) ↔
      r.layers ≠ [] ∧ ∀ i < r.layers.length, ∃ l, p.catalog.layerAt? r i = some l ∧ l.HasStyle)
    ∧ (∀ e, p.document r = .error e ↔ p.catalog.Refuses r e)
    ∧ ((∃ page, p.preview r = .ok page) ↔ ∃ d, p.document r = .ok d)
    ∧ (∀ e, p.preview r = .error e ↔ p.catalog.Refuses r e)
    ∧ ∀ (projector : Projector) (e : ServiceError),
      ({ p with projector } : Publisher).document r = .error e ↔ p.document r = .error e := by
  refine ⟨exists_document_iff, fun e => document_eq_error_iff, ?_, fun e => ?_,
    fun projector e => ?_⟩
  · rw [exists_ok_iff, exists_ok_iff]
    exact forall_congr' fun e => not_congr preview_eq_error_iff_document
  · rw [preview_eq_error_iff_document, document_eq_error_iff]
  · rw [document_eq_error_iff, document_eq_error_iff]

end Publisher

end MapMarkup
