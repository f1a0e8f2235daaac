import MapMarkup.Proofs.Template.Nodes
import MapMarkup.Proofs.Template.Placeholders

/-!
# Closed extents

An extent is closed when its templates and its inputs answer each other: `Extent.IsClosed`. What an
image source makes is closed, provided that the texts put into its templates hold no braces and the
pattern of its servers no placeholder but the one for a shard (`ImageSource.IsPlain`). The inputs
are listed by the kind of fetching, whether there are shards, and whether anything can be queried;
that the list fits the templates is checked kind by kind, and that the texts around the placeholders
add none holds for any texts.
-/

namespace MapMarkup

/-- The templates of an extent take its inputs and no others, and every list is there. -/
structure Extent.IsClosed (e : Extent) : Prop where
  /-- Every placeholder is the name of an input. -/
  declared : ∀ l ∈ e.links, ∀ tref ∈ l.tref, ∀ name, HasPlaceholder tref.toList name →
    ∃ i ∈ e.inputs, i.name = name
  names_nodup : (e.inputs.map Input.name).Nodup
  zoom_unique : (e.inputs.filter fun i => i.type = .zoom).length = 1
  image_unique : (e.links.filter fun l => l.rel = .image || l.rel = .tile).length = 1
  /-- A pixel can be named exactly when it can be queried. -/
  pixel : ∀ name ∈ ["i", "j"], (∃ i ∈ e.inputs, i.name = name) ↔ e.linksTo .query ≠ []
  /-- Every location and size is taken by a template. -/
  referenced : ∀ i ∈ e.inputs, i.type = .location ∨ i.type = .width ∨ i.type = .height →
    ∃ l ∈ e.links, ∃ tref ∈ l.tref, HasPlaceholder tref.toList i.name
  lists : ∀ i ∈ e.inputs, ∀ id ∈ i.list, ∃ d ∈ e.datalists, d.id = id

namespace ImageSource

/-- The texts of a source add no placeholder to its templates, and its servers only that for a
shard. -/
structure IsPlain (s : ImageSource) : Prop where
  base : Braceless s.base.toList
  layers : Braceless s.layers.toList
  queryLayers : ∀ q ∈ s.queryLayers, Braceless q.toList
  styles : Braceless s.styles.toList
  cacheLayer : Braceless s.cacheLayer.toList
  imageFormat : Braceless s.imageFormat.toList
  language : ∀ l ∈ s.language, Braceless l.toList
  pattern : ∀ sharding ∈ s.sharding, ∀ name, HasPlaceholder sharding.pattern.toList name →
    name = shardInput

/-! ### Servers -/

theorem eq_append_of_splitScheme {cs scheme rest : List Char}
    (h : Sharding.splitScheme cs = some (scheme, rest)) :
    cs = scheme ++ ':' :: '/' :: '/' :: rest := by
  fun_induction Sharding.splitScheme cs generalizing scheme with
  | case1 => cases h
  | case2 tail =>
      cases h
      rfl
  | case3 c cs _ ih =>
      obtain ⟨⟨scheme', rest'⟩, hsplit, heq⟩ := Option.map_eq_some_iff.mp h
      cases heq
      rw [List.cons_append, ← ih hsplit]

private theorem pathAfterHost_subset (rest : String) :
    (Sharding.pathAfterHost rest).toList ⊆ '/' :: rest.toList := by
  unfold Sharding.pathAfterHost
  split
  case h_1 host path hsplit =>
    rw [String.toList_ofList, Text.eq_append_of_splitFirst hsplit]
    intro c hc
    exact List.mem_cons_of_mem _ (List.mem_append_right host hc)
  case h_2 => simp

/-- A URL on a sharded host is the pattern between texts of the base and of a scheme. -/
theorem baseUrl_eq_append (base pattern : String) :
    ∃ front back, (Sharding.baseUrl base pattern).toList = front ++ (pattern.toList ++ back)
      ∧ front ⊆ base.toList ++ "http://".toList ∧ back ⊆ base.toList ++ "http://".toList := by
  have hparts : ∃ scheme rest : String, Sharding.baseUrl base pattern
        = scheme ++ "://" ++ pattern ++ Sharding.pathAfterHost rest
      ∧ (scheme.toList ⊆ base.toList ∨ scheme = "http") ∧ rest.toList ⊆ base.toList := by
    unfold Sharding.baseUrl
    cases hsplit : Sharding.splitScheme base.toList with
    | none => exact ⟨"http", base, rfl, .inr rfl, List.Subset.refl _⟩
    | some parts =>
        obtain ⟨scheme, rest⟩ := parts
        rw [eq_append_of_splitScheme hsplit]
        refine ⟨String.ofList scheme, String.ofList rest, rfl, .inl ?_, ?_⟩ <;>
        · rw [String.toList_ofList]
          intro c hc
          simp [hc]
  obtain ⟨scheme, rest, hurl, hscheme, hrest⟩ := hparts
  refine ⟨(scheme ++ "://").toList, (Sharding.pathAfterHost rest).toList, ?_, ?_, ?_⟩
  · rw [hurl, String.toList_append, String.toList_append, List.append_assoc]
  · rcases hscheme with hscheme | rfl
    · rw [String.toList_append]
      exact List.append_subset.mpr ⟨List.subset_append_of_subset_left _ hscheme,
        List.subset_append_of_subset_right _ (by decide)⟩
    · exact List.subset_append_right _ _
  · intro c hc
    rcases List.mem_cons.mp (pathAfterHost_subset rest hc) with rfl | hc
    · exact List.mem_append_right _ (by decide)
    · exact List.mem_append_left _ (hrest hc)

private theorem baseUrl_eq {base : String} (h : Braceless base.toList) (pattern : String) :
    ∃ front back, (Sharding.baseUrl base pattern).toList = front ++ (pattern.toList ++ back)
      ∧ Braceless front ∧ Braceless back := by
  have hall : Braceless (base.toList ++ "http://".toList) := h.append (by decide)
  obtain ⟨front, back, hurl, hfront, hback⟩ := baseUrl_eq_append base pattern
  exact ⟨front, back, hurl, hall.of_subset hfront, hall.of_subset hback⟩

theorem placeholder_of_baseUrl {base pattern : String} (hbase : Braceless base.toList)
    {names : List String} {cs : List Char} (hcs : Woven names cs) {name : String}
    (hname : HasPlaceholder ((Sharding.baseUrl base pattern).toList ++ cs) name) :
    HasPlaceholder pattern.toList name ∨ name ∈ names := by
  obtain ⟨front, back, hurl, hfront, hback⟩ := baseUrl_eq hbase pattern
  rw [hurl, List.append_assoc, List.append_assoc] at hname
  exact (hname.of_append hfront.1).of_append_woven ((Woven.of_braceless hback).append hcs)

private theorem placeholder_of_templateBase {s : ImageSource} (h : s.IsPlain) {names : List String}
    {cs : List Char} (hcs : Woven names cs) {name : String}
    (hname : HasPlaceholder (s.templateBase.toList ++ cs) name) :
    (s.sharding.isSome ∧ name = shardInput) ∨ name ∈ names := by
  unfold templateBase at hname
  cases hsharding : s.sharding with
  | none =>
      rw [hsharding] at hname
      exact .inr (hname.mem_of_woven ((Woven.of_braceless h.base).append hcs))
  | some sharding =>
      rw [hsharding] at hname
      rcases placeholder_of_baseUrl h.base hcs hname with hpattern | hmem
      · exact .inl ⟨rfl, h.pattern sharding hsharding name hpattern⟩
      · exact .inr hmem

/-! ### Parameters -/

def imageNames (fetching : Fetching) : List String :=
  "z" :: (imageSignatures fetching).map Prod.fst

/-- The parameter adds no placeholder but those for the names. -/
def IsWovenParam (names : List String) (p : String × String) : Prop :=
  Braceless p.1.toList ∧ Woven names p.2.toList

theorem isWovenParam_of_braceless {names : List String} {key value : String}
    (hkey : Braceless key.toList) (hvalue : Braceless value.toList) :
    IsWovenParam names (key, value) :=
  ⟨hkey, .of_braceless hvalue⟩

theorem isWovenParam_placeholder {names : List String} {key name : String}
    (hkey : Braceless key.toList) (hname : Braceless name.toList) (hmem : name ∈ names) :
    IsWovenParam names (key, placeholder name) :=
  ⟨hkey, .of_placeholder hname hmem⟩

private theorem woven_boxParam {fetching : Fetching} (h : fetching ≠ .wmts) :
    Woven (imageNames fetching) (boxParam fetching).toList := by
  have hsides : ∀ fetching ≠ .wmts, ∀ side ∈ ["xmin", "ymin", "xmax", "ymax"],
      Braceless (inputStart fetching ++ side).toList
        ∧ inputStart fetching ++ side ∈ imageNames fetching := by
    decide
  have hcorner : ∀ side ∈ ["xmin", "ymin", "xmax", "ymax"],
      Woven (imageNames fetching) (placeholder (inputStart fetching ++ side)).toList := by
    intro side hside
    obtain ⟨hbraceless, hmem⟩ := hsides fetching h side hside
    exact .of_placeholder hbraceless hmem
  have hcomma : Woven (imageNames fetching) ",".toList := .of_braceless (by decide)
  unfold boxParam
  simp only [String.toList_append]
  exact ((((((hcorner "xmin" (by simp)).append hcomma).append (hcorner "ymin" (by simp))).append
    hcomma).append (hcorner "xmax" (by simp))).append hcomma).append (hcorner "ymax" (by simp))

section Parameters

variable {s : ImageSource} {names : List String}

theorem isWovenParam_boxParam {fetching : Fetching} (h : fetching ≠ .wmts)
    (hnames : imageNames fetching ⊆ names) : IsWovenParam names ("bbox", boxParam fetching) := by
  have hkey : Braceless "bbox".toList := by decide
  exact ⟨hkey, (woven_boxParam h).mono hnames⟩

theorem woven_sizeParams {fetching : Fetching} (hnames : imageNames fetching ⊆ names) :
    ∀ p ∈ sizeParams fetching, IsWovenParam names p := by
  have hsize : ∀ key : String, Braceless key.toList → IsWovenParam names (key, toString tileSize) :=
    fun key hkey => isWovenParam_of_braceless hkey (by decide)
  cases fetching with
  | image =>
      have hw : "w" ∈ names := hnames (by decide)
      have hh : "h" ∈ names := hnames (by decide)
      simp only [sizeParams, List.forall_mem_cons]
      exact ⟨isWovenParam_placeholder (by decide) (by decide) hw,
        isWovenParam_placeholder (by decide) (by decide) hh, by simp⟩
  | wmsTiles =>
      simp only [sizeParams, List.forall_mem_cons]
      exact ⟨hsize "width" (by decide), hsize "height" (by decide), by simp⟩
  | wmts =>
      simp only [sizeParams, List.forall_mem_cons]
      exact ⟨hsize "width" (by decide), hsize "height" (by decide), by simp⟩

theorem woven_languageParam (h : s.IsPlain) : ∀ p ∈ s.languageParam, IsWovenParam names p := by
  intro p hp
  obtain ⟨l, hl, rfl⟩ := List.mem_map.mp hp
  exact isWovenParam_of_braceless (by decide) (h.language l (Option.mem_toList.mp hl))

theorem braceless_code (t : Tcrs) : Braceless t.code.toList ∧ Braceless t.name.toList := by
  cases t <;> decide

theorem woven_mapParams (h : s.IsPlain) (hfetching : s.fetching ≠ .wmts)
    (hnames : imageNames s.fetching ⊆ names) :
    ∀ p ∈ s.mapTemplate.params, IsWovenParam names p := by
  simp only [mapTemplate, List.forall_mem_append, List.forall_mem_cons]
  exact ⟨⟨⟨isWovenParam_of_braceless (by decide) (by decide),
    isWovenParam_of_braceless (by decide) (by decide),
    isWovenParam_of_braceless (by decide) (by decide),
    isWovenParam_of_braceless (by decide) (braceless_code _).1,
    isWovenParam_of_braceless (by decide) h.layers,
    isWovenParam_of_braceless (by decide) h.styles,
    isWovenParam_boxParam hfetching hnames,
    isWovenParam_of_braceless (by decide) h.imageFormat,
    isWovenParam_of_braceless (by decide) (by decide), by simp⟩, woven_sizeParams hnames⟩,
    woven_languageParam h⟩

theorem woven_cacheParams (h : s.IsPlain) (hnames : imageNames .wmts ⊆ names) {request : String}
    (hrequest : Braceless request.toList) : ∀ p ∈ s.cacheParams request, IsWovenParam names p := by
  have hz : "z" ∈ names := hnames (by decide)
  have hx : "x" ∈ names := hnames (by decide)
  have hy : "y" ∈ names := hnames (by decide)
  simp only [cacheParams, List.forall_mem_cons]
  exact ⟨isWovenParam_of_braceless (by decide) h.cacheLayer,
    isWovenParam_of_braceless (by decide) h.styles,
    isWovenParam_of_braceless (by decide) (braceless_code _).2,
    isWovenParam_of_braceless (by decide) (by decide),
    isWovenParam_of_braceless (by decide) hrequest,
    isWovenParam_of_braceless (by decide) (by decide),
    isWovenParam_placeholder (by decide) (by decide) hz,
    isWovenParam_placeholder (by decide) (by decide) hx,
    isWovenParam_placeholder (by decide) (by decide) hy, by simp⟩

theorem woven_imageTemplate (h : s.IsPlain) (hnames : imageNames s.fetching ⊆ names) :
    ∀ p ∈ s.imageTemplate.params, IsWovenParam names p := by
  have hformat : IsWovenParam names ("format", s.imageFormat) :=
    isWovenParam_of_braceless (by decide) h.imageFormat
  unfold imageTemplate
  cases hfetching : s.fetching with
  | image => exact woven_mapParams h (by rw [hfetching]; decide) hnames
  | wmsTiles => exact woven_mapParams h (by rw [hfetching]; decide) hnames
  | wmts =>
      rw [hfetching] at hnames
      simp only [cacheTemplate, List.forall_mem_append, List.forall_mem_cons]
      exact ⟨woven_cacheParams h hnames (by decide), hformat, by simp⟩

theorem woven_queryTemplate (h : s.IsPlain) (hnames : imageNames s.fetching ⊆ names)
    (hi : "i" ∈ names) (hj : "j" ∈ names) {q : String} (hq : Braceless q.toList) :
    ∀ p ∈ (s.queryTemplate q).params, IsWovenParam names p := by
  have hmap : s.fetching ≠ .wmts → ∀ p ∈
      [("version", "1.3.0"), ("service", "WMS"), ("request", "GetFeatureInfo"),
        ("crs", s.tcrs.code), ("layers", s.layers), ("query_layers", q), ("styles", s.styles),
        ("bbox", boxParam s.fetching), ("transparent", "true")] ++ sizeParams s.fetching
        ++ [("x", placeholder "i"), ("y", placeholder "j"), ("info_format", "text/mapml"),
          ("feature_count", toString featureCount)] ++ s.languageParam, IsWovenParam names p := by
    intro hfetching
    simp only [List.forall_mem_append, List.forall_mem_cons]
    exact ⟨⟨⟨⟨isWovenParam_of_braceless (by decide) (by decide),
      isWovenParam_of_braceless (by decide) (by decide),
      isWovenParam_of_braceless (by decide) (by decide),
      isWovenParam_of_braceless (by decide) (braceless_code _).1,
      isWovenParam_of_braceless (by decide) h.layers,
      isWovenParam_of_braceless (by decide) hq,
      isWovenParam_of_braceless (by decide) h.styles,
      isWovenParam_boxParam hfetching hnames,
      isWovenParam_of_braceless (by decide) (by decide), by simp⟩, woven_sizeParams hnames⟩,
      isWovenParam_placeholder (by decide) (by decide) hi,
      isWovenParam_placeholder (by decide) (by decide) hj,
      isWovenParam_of_braceless (by decide) (by decide),
      isWovenParam_of_braceless (by decide) (by decide), by simp⟩, woven_languageParam h⟩
  unfold queryTemplate
  cases hfetching : s.fetching with
  | image =>
      rw [hfetching] at hmap
      exact hmap (by decide)
  | wmsTiles =>
      rw [hfetching] at hmap
      exact hmap (by decide)
  | wmts =>
      rw [hfetching] at hnames
      simp only [List.forall_mem_append, List.forall_mem_cons]
      exact ⟨woven_cacheParams h hnames (by decide),
        isWovenParam_placeholder (by decide) (by decide) hi,
        isWovenParam_placeholder (by decide) (by decide) hj,
        isWovenParam_of_braceless (by decide) (by decide),
        isWovenParam_of_braceless (by decide) (by decide), by simp⟩

/-! ### Placeholders and inputs -/

def inputNames (s : ImageSource) : List String :=
  (signatures s.sharding.isSome s.fetching s.queryLayers.isSome).map Prod.fst

theorem imageNames_subset (s : ImageSource) : imageNames s.fetching ⊆ s.inputNames := by
  have hsubset : ∀ (sharded : Bool) (fetching : Fetching) (queried : Bool),
      imageNames fetching ⊆ (signatures sharded fetching queried).map Prod.fst := by
    decide
  exact hsubset _ _ _

private theorem shardInput_mem (h : s.sharding.isSome = true) : shardInput ∈ s.inputNames := by
  have hmem : ∀ (fetching : Fetching) (queried : Bool),
      shardInput ∈ (signatures true fetching queried).map Prod.fst := by
    decide
  rw [inputNames, h]
  exact hmem _ _

private theorem pixel_mem {q : String} (h : s.queryLayers = some q) :
    "i" ∈ s.inputNames ∧ "j" ∈ s.inputNames := by
  have hmem : ∀ (sharded : Bool) (fetching : Fetching),
      "i" ∈ (signatures sharded fetching true).map Prod.fst
        ∧ "j" ∈ (signatures sharded fetching true).map Prod.fst := by
    decide
  rw [inputNames, h]
  exact hmem _ _

theorem mem_inputNames (h : s.IsPlain) {t : Template} {path : String}
    (hendpoint : t.endpoint = s.templateBase ++ path) (hpath : Braceless path.toList)
    (hparams : ∀ p ∈ t.params, IsWovenParam s.inputNames p) {name : String}
    (hname : HasPlaceholder t.text.toList name) : name ∈ s.inputNames := by
  rw [Template.toList_text, hendpoint, String.toList_append, List.append_assoc] at hname
  have hwoven := (Woven.of_braceless hpath).append (Template.woven_parameters hparams)
  rcases placeholder_of_templateBase h hwoven hname with ⟨hsharding, rfl⟩ | hmem
  · exact shardInput_mem hsharding
  · exact hmem

theorem imageTemplate_endpoint (s : ImageSource) : ∃ path : String,
    s.imageTemplate.endpoint = s.templateBase ++ path ∧ Braceless path.toList := by
  unfold imageTemplate
  cases s.fetching with
  | image => exact ⟨"wms", rfl, by decide⟩
  | wmsTiles => exact ⟨"wms", rfl, by decide⟩
  | wmts => exact ⟨"gwc/service/wmts", rfl, by decide⟩

theorem queryTemplate_endpoint (s : ImageSource) (q : String) : ∃ path : String,
    (s.queryTemplate q).endpoint = s.templateBase ++ path ∧ Braceless path.toList := by
  unfold queryTemplate
  cases s.fetching with
  | image => exact ⟨"wms", rfl, by decide⟩
  | wmsTiles => exact ⟨"wms", rfl, by decide⟩
  | wmts => exact ⟨"gwc/service/wmts", rfl, by decide⟩

private theorem mem_inputNames_of_link (h : s.IsPlain) {e : Extent} (he : e.nodes = s.nodes)
    {l : Link} (hl : l ∈ e.links) {tref : String} (htref : tref ∈ l.tref) {name : String}
    (hname : HasPlaceholder tref.toList name) : name ∈ s.inputNames := by
  rw [links_eq he, List.mem_cons] at hl
  rcases hl with rfl | hl
  · cases htref
    obtain ⟨path, hendpoint, hpath⟩ := s.imageTemplate_endpoint
    exact mem_inputNames h hendpoint hpath (woven_imageTemplate h s.imageNames_subset) hname
  · obtain ⟨q, hq, rfl⟩ := List.mem_map.mp hl
    cases htref
    have hquery := Option.mem_toList.mp hq
    obtain ⟨hi, hj⟩ := pixel_mem hquery
    obtain ⟨path, hendpoint, hpath⟩ := s.queryTemplate_endpoint q
    exact mem_inputNames h hendpoint hpath
      (woven_queryTemplate h s.imageNames_subset hi hj (h.queryLayers q hquery)) hname

def slotParams : Fetching → List (String × String)
  | .image =>
    [("bbox", boxParam .image), ("width", placeholder "w"), ("height", placeholder "h")]
  | .wmsTiles => [("bbox", boxParam .wmsTiles)]
  | .wmts => [("TileCol", placeholder "x"), ("TileRow", placeholder "y")]

private theorem slotParams_subset (s : ImageSource) :
    slotParams s.fetching ⊆ s.imageTemplate.params := by
  unfold imageTemplate mapTemplate cacheTemplate cacheParams
  cases s.fetching <;> simp [slotParams, sizeParams]

private theorem hasPlaceholder_imageTemplate {sig : String × InputType × Option String}
    (h : sig ∈ imageSignatures s.fetching) :
    HasPlaceholder s.imageTemplate.text.toList sig.1 := by
  have hslot : ∀ fetching, ∀ sig ∈ imageSignatures fetching, ∃ p ∈ slotParams fetching,
      HasPlaceholder p.2.toList sig.1 := by
    decide
  obtain ⟨p, hp, hname⟩ := hslot _ sig h
  exact Template.hasPlaceholder_of_mem (s.slotParams_subset hp) hname

private theorem hasPlaceholder_queryTemplate (s : ImageSource) (q : String) {name : String}
    (hname : name = "i" ∨ name = "j") : HasPlaceholder (s.queryTemplate q).text.toList name := by
  have hparam : ∃ key, (key, placeholder name) ∈ (s.queryTemplate q).params := by
    unfold queryTemplate
    cases s.fetching with
    | image =>
        rcases hname with rfl | rfl
        · exact ⟨"x", by simp⟩
        · exact ⟨"y", by simp⟩
    | wmsTiles =>
        rcases hname with rfl | rfl
        · exact ⟨"x", by simp⟩
        · exact ⟨"y", by simp⟩
    | wmts =>
        rcases hname with rfl | rfl
        · exact ⟨"i", by simp⟩
        · exact ⟨"j", by simp⟩
  have hself : HasPlaceholder (placeholder name).toList name := by
    refine ⟨?_, List.infix_refl _⟩
    rcases hname with rfl | rfl <;> decide
  obtain ⟨key, hkey⟩ := hparam
  exact Template.hasPlaceholder_of_mem hkey hself

end Parameters

/-! ### Closed extents -/

section Closed

variable {e : Extent} {s : ImageSource}

theorem mem_signatures (he : e.nodes = s.nodes) {i : Input} (hi : i ∈ e.inputs) :
    i.signature ∈ signatures s.sharding.isSome s.fetching s.queryLayers.isSome :=
  signatures_eq he ▸ List.mem_map_of_mem hi

theorem map_name_inputs (he : e.nodes = s.nodes) : e.inputs.map Input.name = s.inputNames := by
  rw [inputNames, ← signatures_eq he, List.map_map]
  rfl

theorem linksTo_query (he : e.nodes = s.nodes) : e.linksTo .query
    = s.queryLayers.toList.map fun q => Link.template .query (s.queryTemplate q).text := by
  unfold Extent.linksTo
  rw [links_eq he]
  cases s.fetching <;> cases s.queryLayers <;> rfl

theorem zoom_unique (he : e.nodes = s.nodes) :
    (e.inputs.filter fun i => i.type = .zoom).length = 1 := by
  rw [filter_zoom he, List.length_singleton]

theorem image_unique (he : e.nodes = s.nodes) :
    (e.links.filter fun l => l.rel = .image || l.rel = .tile).length = 1 := by
  rw [links_eq he]
  cases s.fetching <;> cases s.queryLayers <;> rfl

theorem names_nodup (he : e.nodes = s.nodes) : (e.inputs.map Input.name).Nodup := by
  have hnodup : ∀ (sharded : Bool) (fetching : Fetching) (queried : Bool),
      ((signatures sharded fetching queried).map Prod.fst).Nodup := by
    decide
  rw [map_name_inputs he]
  exact hnodup _ _ _

private theorem pixel_iff (he : e.nodes = s.nodes) {name : String} (hname : name ∈ ["i", "j"]) :
    (∃ i ∈ e.inputs, i.name = name) ↔ e.linksTo .query ≠ [] := by
  have hmem : ∀ (sharded : Bool) (fetching : Fetching) (queried : Bool),
      ∀ name ∈ ["i", "j"], name ∈ (signatures sharded fetching queried).map Prod.fst
        ↔ queried = true := by
    decide
  have hinputs : (∃ i ∈ e.inputs, i.name = name) ↔ name ∈ s.inputNames := by
    rw [← map_name_inputs he, List.mem_map]
  rw [hinputs, inputNames, hmem _ _ _ name hname, linksTo_query he]
  cases s.queryLayers <;> simp

theorem referenced (he : e.nodes = s.nodes) {i : Input} (hi : i ∈ e.inputs)
    (htype : i.type = .location ∨ i.type = .width ∨ i.type = .height) :
    ∃ l ∈ e.links, ∃ tref ∈ l.tref, HasPlaceholder tref.toList i.name := by
  have hkind : ∀ (sharded : Bool) (fetching : Fetching) (queried : Bool),
      ∀ sig ∈ signatures sharded fetching queried,
        sig.2.1 = .location ∨ sig.2.1 = .width ∨ sig.2.1 = .height →
        sig ∈ imageSignatures fetching ∨ queried = true ∧ (sig.1 = "i" ∨ sig.1 = "j") := by
    decide
  rw [links_eq he]
  rcases hkind _ _ _ _ (mem_signatures he hi) htype with himage | ⟨hquery, hname⟩
  · exact ⟨_, List.mem_cons_self, _, rfl, hasPlaceholder_imageTemplate himage⟩
  · obtain ⟨q, hq⟩ := Option.isSome_iff_exists.mp hquery
    refine ⟨Link.template .query (s.queryTemplate q).text, List.mem_cons_of_mem _ ?_, _, rfl,
      s.hasPlaceholder_queryTemplate q hname⟩
    rw [hq]
    exact List.mem_singleton_self _

theorem lists (he : e.nodes = s.nodes) {i : Input} (hi : i ∈ e.inputs) {id : String}
    (hid : id ∈ i.list) : ∃ d ∈ e.datalists, d.id = id := by
  have hlist : ∀ (sharded : Bool) (fetching : Fetching) (queried : Bool),
      ∀ sig ∈ signatures sharded fetching queried,
        sig.2.2 = none ∨ sharded = true ∧ sig.2.2 = some shardList := by
    decide
  have hsome : i.signature.2.2 = some id := hid
  rcases hlist _ _ _ _ (mem_signatures he hi) with hnone | ⟨hsharded, hshard⟩
  · rw [hnone] at hsome
    cases hsome
  · rw [hshard] at hsome
    cases hsome
    obtain ⟨sharding, hsharding⟩ := Option.isSome_iff_exists.mp hsharded
    have hids := datalists_eq he
    rw [hsharding] at hids
    have hmem : shardList ∈ e.datalists.map Datalist.id := by
      rw [hids]
      exact List.mem_singleton_self _
    exact List.mem_map.mp hmem

theorem IsPlain.isClosed (h : s.IsPlain) (he : e.nodes = s.nodes) : e.IsClosed where
  declared l hl tref htref name hname := by
    have hmem := mem_inputNames_of_link h he hl htref hname
    rw [← map_name_inputs he] at hmem
    exact List.mem_map.mp hmem
  names_nodup := names_nodup he
  zoom_unique := zoom_unique he
  image_unique := image_unique he
  pixel _ := pixel_iff he
  referenced _ := referenced he
  lists _ := lists he

end Closed

end ImageSource

end MapMarkup
